import ColumnCode.Proofs.ColumnNames
import ColumnCode.Proofs.InvocationOutcome
import ColumnCode.Proofs.WordPlaces

/-!
# What each word of the vocabulary reaches

Every word of the vocabulary stands in some lines and initializers and in no
others.  So two vocabularies that differ in one word give the same code but for
the lines and initializers that the word reaches, and there the code differs
whenever the texts for the word do.
-/

namespace ColumnCode

namespace Vocabulary.Word

/-- Whether a word stands in the lines of an operation for a branch. -/
def reaches (word : Word) (role : Role) (backing : Backing)
    (operation : Operation) (branch : Branch) : Bool :=
  match word with
  | .runtime | .tree | .nameType => operation.callsRuntime
  | .selection => operation == .enable || operation == .bind || operation == .book
  | .enableFlag => operation == .bind
  | .storageName => operation.callsRuntime && (role == .storage || role == .element)
  | .recordName => operation.callsRuntime && role == .cached
  | .capacity => operation == .allocate
  | .entrySize => operation == .book && role == .storage && backing == .array
  | .formatter => operation == .book && branch.isArray && !(role == .storage && backing == .vector)
  | .origin => operation == .assign
  | .printStream | .printIndent => operation == .dump
  | .ownStore | .givenStore | .givenPosition => false

/-- Whether a word stands in what a constructor initializes a branch with. -/
def reachesConstructor (word : Word) (role : Role) (constructor : Constructor)
    (branch : Branch) : Bool :=
  match word with
  | .origin => constructor == .copying && role.holdsValues && !branch.isArray
  | .ownStore => role == .element && constructor != .positioned
  | .givenStore | .givenPosition => role == .element && constructor == .positioned
  | _ => false

end Vocabulary.Word

namespace Target

open Vocabulary (AgreeExcept WrittenFrom Word)

/-- The words in the full name of a column. -/
def columnWords : Role → List Word
  | .storage | .element => [.nameType, .storageName]
  | .cached => [.nameType, .recordName]
  | .entry => [.nameType]

/-- The words in the shape that a branch is booked with. -/
def shapeWords (role : Role) (branch : Branch) : List Word :=
  (if role == .storage then [.entrySize] else []) ++ if branch.isArray then [.formatter] else []

/-- The words in what an operation passes to the runtime behind the full name. -/
def furtherWords (role : Role) (backing : Backing) (branch : Branch) : Operation → List Word
  | .enable => [.selection]
  | .bind => [.selection, .enableFlag]
  | .book =>
      (if role == .storage && backing == .vector then [] else shapeWords role branch) ++
        [.selection]
  | _ => []

/-- The words in the lines of an operation for a branch. -/
def words (role : Role) (backing : Backing) (branch : Branch) (operation : Operation) :
    List Word :=
  if operation.callsRuntime then
    .runtime :: .tree :: (columnWords role ++ furtherWords role backing branch operation)
  else
    match operation with
    | .allocate => [.capacity]
    | .assign => [.origin]
    | .dump => [.printStream, .printIndent]
    | _ => []

theorem writtenFrom_columnName (role : Role) (name : String) :
    WrittenFrom (·.columnName role name) (columnWords role) := by
  have opened := (WrittenFrom.ofText .nameType (by decide)).append_text "("
  cases role with
  | storage | element =>
      exact (((opened.append (.ofText .storageName (by decide))).append_text ", \"").append_text
        name).append_text "\")"
  | cached =>
      exact (((opened.append (.ofText .recordName (by decide))).append_text ", \"").append_text
        name).append_text "\")"
  | entry =>
      exact (((WrittenFrom.ofText .nameType (by decide)).append_text "(\"").append_text
        name).append_text "\")"

theorem writtenFrom_bookedShape (role : Role) (backing : Backing) (branch : Branch) :
    WrittenFrom (fun vocabulary => (Target.mk role backing vocabulary).bookedShape branch)
      (shapeWords role branch) := by
  have formatted : WrittenFrom
      (fun vocabulary => (Target.mk role backing vocabulary).formattedShape branch.shape)
      [.formatter] :=
    (((WrittenFrom.ofText .formatter (by decide)).append_text "(").append_text _).append_text ")"
  have sized : WrittenFrom (·.entrySize) [.entrySize] := .ofText .entrySize (by decide)
  by_cases storage : role = .storage <;> by_cases array : branch.isArray = true
  · simpa [bookedShape, shapeWords, storage, array] using
      (sized.append_text " + ").append (storage ▸ formatted)
  · simpa [bookedShape, shapeWords, storage, array] using sized
  · simpa [bookedShape, shapeWords, storage, array] using formatted
  · simpa [bookedShape, shapeWords, storage, array] using WrittenFrom.constant "\"\""

theorem writtenFrom_furtherArguments (role : Role) (backing : Backing) (branch : Branch)
    (operation : Operation) :
    WrittenFrom (fun vocabulary => String.join
      (((Target.mk role backing vocabulary).furtherArguments branch operation).map (", " ++ ·)))
      (furtherWords role backing branch operation) := by
  have noArgument : WrittenFrom (fun _ => String.join (List.map (", " ++ ·) [])) [] := .constant ""
  have selected := (WrittenFrom.ofText .selection (by decide)).argument noArgument
  have address :
      WrittenFrom (fun vocabulary => (Target.mk role backing vocabulary).address branch) [] :=
    .constant ((Target.mk role backing .standard).address branch)
  cases operation with
  | enable => exact selected
  | bind =>
      have flagged := (WrittenFrom.ofText .enableFlag (by decide)).argument noArgument
      exact address.argument ((WrittenFrom.ofText .selection (by decide)).argument flagged)
  | book =>
      have addressed := address.argument selected
      by_cases vector : (role == .storage && backing == .vector) = true
      · simpa [furtherArguments, furtherWords, usesVectors, vector, Vocabulary.text] using
          (WrittenFrom.constant ("\"" ++ vectorType branch ++ "\"")).argument addressed
      · have lettered := (WrittenFrom.constant
          ("'" ++ String.singleton branch.scalar.letter ++ "'")).argument addressed
        simpa [furtherArguments, furtherWords, usesVectors, vector, Vocabulary.text] using
          (writtenFrom_bookedShape role backing branch).argument lettered
  | declare | declarePointer | allocate | deallocate | assign | reset | release | dump =>
      exact noArgument

/-- In a call of the runtime stand the namespace, the tree, the words of the full
name and those of the further arguments. -/
theorem writtenFrom_runtimeCall (role : Role) (backing : Backing) (branch : Branch)
    (operation : Operation) :
    WrittenFrom (fun vocabulary => (Target.mk role backing vocabulary).runtimeCall
        operation.calledFunction branch
        ((Target.mk role backing vocabulary).furtherArguments branch operation))
      (.runtime :: .tree :: (columnWords role ++ furtherWords role backing branch operation)) := by
  simp only [runtimeCall_eq]
  have opened := ((WrittenFrom.runtimeFunction operation.calledFunction).append_text "(").append
    (.ofText .tree (by decide))
  have named := (opened.append_text ", ").append (writtenFrom_columnName role branch.name)
  exact named.append ((writtenFrom_furtherArguments role backing branch operation).append_text ");")

/-- The lines of an operation are written from the words of the operation. -/
theorem writtenFrom_body (role : Role) (backing : Backing) (branch : Branch)
    (operation : Operation) :
    WrittenFrom (fun vocabulary => String.join
      (((Target.mk role backing vocabulary).body operation branch).map (· ++ "\n")))
      (words role backing branch operation) := by
  cases operation with
  | enable => exact (writtenFrom_runtimeCall role backing branch .enable).line
  | bind => exact (writtenFrom_runtimeCall role backing branch .bind).line
  | book => exact (writtenFrom_runtimeCall role backing branch .book).line
  | release => exact (writtenFrom_runtimeCall role backing branch .release).line
  | declare =>
      exact .constant (String.join ([(Target.mk role backing .standard).declaration branch].map _))
  | declarePointer => exact .constant (String.join ([pointerDeclaration branch].map _))
  | deallocate =>
      exact .constant (String.join (((Target.mk role backing .standard).deallocation branch).map _))
  | reset => exact .constant (String.join ([branch.resetStatement.render].map _))
  | allocate =>
      have sized : WrittenFrom (·.capacity) [.capacity] := .ofText .capacity (by decide)
      cases backing with
      | vector => exact ((sized.text_append (branch.name ++ ".resize(")).append_text ");").line
      | array =>
          exact ((sized.text_append
            (branch.name ++ " = new " ++ branch.memberType ++ "[")).append_text "];").line
  | assign =>
      have source :
          WrittenFrom (fun vocabulary => vocabulary.origin ++ "." ++ branch.name) [.origin] :=
        ((WrittenFrom.ofText .origin (by decide)).append_text ".").append_text branch.name
      apply WrittenFrom.line
      by_cases array : branch.isArray = true
      · simp only [assignment, array, if_true]
        exact (((((source.text_append ("std::memcpy(" ++ branch.name ++ ", ")).append_text
          ", sizeof(").append_text branch.scalar.typeName).append_text ") * ").append_text
          branch.shape.product).append_text ");"
      · simp only [assignment, array]
        exact (source.text_append (branch.name ++ " = ")).append_text ";"
  | dump =>
      have indented := ((WrittenFrom.ofText .printStream (by decide)).append_text " << ").append
        (.ofText .printIndent (by decide))
      exact (((((indented.append_text " << \"").append_text branch.name).append_text
        " = \" << ").append_text (printedValue branch)).append_text " << std::endl;").line

/-- The words that the code of an operation for a branch depends on. -/
def codeWords (role : Role) (backing : Backing) (operation : Operation) (branch : Branch) :
    List Word :=
  if (Target.mk role backing .standard).treats operation branch then
    words role backing branch operation
  else
    []

theorem writtenFrom_code (role : Role) (backing : Backing) (operation : Operation)
    (branch : Branch) :
    WrittenFrom (fun vocabulary => String.join
      (((Target.mk role backing vocabulary).code operation branch).map (· ++ "\n")))
      (codeWords role backing operation branch) := by
  unfold codeWords
  by_cases treated : (Target.mk role backing .standard).treats operation branch = true
  · have always (vocabulary : Vocabulary) :
        (Target.mk role backing vocabulary).treats operation branch = true := treated
    simp only [code, always, if_true]
    exact writtenFrom_body role backing branch operation
  · have never (vocabulary : Vocabulary) :
        ¬(Target.mk role backing vocabulary).treats operation branch = true := treated
    simp only [code, never, if_false, Bool.false_eq_true]
    exact .constant ""

theorem writtenFrom_codeAll (role : Role) (backing : Backing) (operation : Operation)
    (branches : List Branch) :
    WrittenFrom (fun vocabulary => String.join
      (((Target.mk role backing vocabulary).codeAll operation branches).map (· ++ "\n")))
      (branches.flatMap (codeWords role backing operation)) := by
  simp only [codeAll, List.map_flatMap]
  exact .join (writtenFrom_code role backing operation) branches

/-- The words of an operation are those that reach it. -/
theorem contains_words (word : Word) (role : Role) (backing : Backing) (branch : Branch)
    (operation : Operation) :
    (words role backing branch operation).contains word =
      word.reaches role backing operation branch := by
  cases operation with
  | declare | declarePointer | allocate | deallocate | assign | reset | dump =>
      cases word <;> rfl
  | enable | bind | release => cases role <;> cases word <;> rfl
  | book =>
      unfold words furtherWords shapeWords Word.reaches
      cases branch.isArray <;> cases role <;> cases backing <;> cases word <;> rfl

/-- The code of an operation depends on a word just when the word reaches a
branch that the operation treats. -/
theorem mem_flatMap_codeWords (word : Word) (role : Role) (backing : Backing)
    (operation : Operation) (branches : List Branch) (vocabulary : Vocabulary) :
    word ∈ branches.flatMap (codeWords role backing operation) ↔
      ∃ branch ∈ branches, (Target.mk role backing vocabulary).treats operation branch = true ∧
        word.reaches role backing operation branch = true := by
  rw [List.mem_flatMap]
  refine exists_congr fun branch => and_congr_right fun _ => ?_
  rw [← contains_words, List.contains_iff_mem, codeWords]
  have sameTreated : (Target.mk role backing .standard).treats operation branch =
      (Target.mk role backing vocabulary).treats operation branch := rfl
  rw [sameTreated]
  split <;> simp [*]

/-- What an operation writes is the same when the lines are the same texts. -/
theorem write_eq_iff (role : Role) (backing : Backing) (first second : Vocabulary)
    (operation : Operation) (branches : List Branch) (listing : Listing) :
    (Target.mk role backing first).write operation branches listing =
        (Target.mk role backing second).write operation branches listing ↔
      String.join (((Target.mk role backing first).codeAll operation branches).map (· ++ "\n")) =
        String.join
          (((Target.mk role backing second).codeAll operation branches).map (· ++ "\n")) := by
  have written (vocabulary : Vocabulary) :
      (Target.mk role backing vocabulary).write operation branches listing =
        ⟨[.generating operation role branches.length], ⟨listing.text ++ String.join
          (((Target.mk role backing vocabulary).codeAll operation branches).map (· ++ "\n"))⟩⟩ := by
    rw [← Listing.text_addLines]
    rfl
  rw [written, written]
  simp

section Initializers

variable (role : Role) (backing : Backing) (constructor : Constructor) (branch : Branch)

/-- The words in what a constructor initializes a branch with. -/
def initializerWords : List Word :=
  match role, constructor with
  | .element, .positioned => [.givenStore, .givenPosition]
  | .element, _ => [.ownStore]
  | .cached, .copying | .entry, .copying => if branch.isArray then [] else [.origin]
  | _, _ => []

theorem contains_initializerWords (word : Word) :
    (initializerWords role constructor branch).contains word =
      word.reachesConstructor role constructor branch := by
  unfold initializerWords Word.reachesConstructor
  cases branch.isArray <;> cases role <;> cases constructor <;> cases word <;> rfl

/-- Whether a branch has an initializer does not depend on the vocabulary. -/
theorem isSome_initializer? (first second : Vocabulary) :
    ((Target.mk role backing first).initializer? constructor branch).isSome =
      ((Target.mk role backing second).initializer? constructor branch).isSome := by
  unfold initializer?
  cases branch.isArray <;> cases role <;> cases constructor <;> rfl

theorem writtenFrom_initializer? :
    WrittenFrom (fun vocabulary =>
      ((Target.mk role backing vocabulary).initializer? constructor branch).getD "")
      (initializerWords role constructor branch) := by
  have named {code : Vocabulary → String} {words : List Word} (written : WrittenFrom code words) :
      WrittenFrom (fun vocabulary => branch.name ++ "(" ++ code vocabulary ++ "." ++ branch.name)
        words :=
    ((written.text_append (branch.name ++ "(")).append_text ".").append_text branch.name
  have own := (named (.ofText .ownStore (by decide))).append_text "[0])"
  have given := (((named (.ofText .givenStore (by decide))).append_text "[").append
    (.ofText .givenPosition (by decide))).append_text "])"
  have none : WrittenFrom (fun _ => Option.getD none "") [] := .constant ""
  have copied :
      WrittenFrom (fun vocabulary =>
        (if branch.isArray then Option.none
        else some (branch.name ++ "(" ++ vocabulary.origin ++ "." ++ branch.name ++ ")")).getD "")
        (if branch.isArray then [] else [.origin]) := by
    cases branch.isArray with
    | true => exact none
    | false => exact (named (.ofText .origin (by decide))).append_text ")"
  cases role with
  | storage => exact none
  | cached | entry =>
      cases constructor with
      | plain | positioned => exact none
      | copying => exact copied
  | element =>
      cases constructor with
      | plain | copying => exact own
      | positioned => exact given

theorem initializer?_eq_iff {word : Word} {first second : Vocabulary}
    (agree : AgreeExcept word first second) :
    (Target.mk role backing first).initializer? constructor branch =
        (Target.mk role backing second).initializer? constructor branch ↔
      first.text word = second.text word ∨
        ¬word.reachesConstructor role constructor branch = true := by
  rw [← contains_initializerWords, List.contains_iff_mem,
    ← (writtenFrom_initializer? role backing constructor branch).code_eq_iff agree]
  have alike := isSome_initializer? role backing constructor branch first second
  revert alike
  generalize (Target.mk role backing first).initializer? constructor branch = inFirst
  generalize (Target.mk role backing second).initializer? constructor branch = inSecond
  cases inFirst <;> cases inSecond <;> simp

/-- The initializers of all branches are the same just when those of each are. -/
theorem initializers_eq_iff (first second : Vocabulary) (branches : List Branch) :
    (Target.mk role backing first).initializers constructor branches =
        (Target.mk role backing second).initializers constructor branches ↔
      ∀ branch ∈ branches, (Target.mk role backing first).initializer? constructor branch =
        (Target.mk role backing second).initializer? constructor branch := by
  simp only [initializers]
  induction branches with
  | nil => simp
  | cons branch branches ih =>
      have alike := isSome_initializer? role backing constructor branch first second
      rw [List.forall_mem_cons, List.filterMap_cons, List.filterMap_cons, ← ih]
      revert alike
      generalize (Target.mk role backing first).initializer? constructor branch = inFirst
      generalize (Target.mk role backing second).initializer? constructor branch = inSecond
      cases inFirst <;> cases inSecond <;> simp

end Initializers

section TwoVocabularies

variable {word : Word} {first second : Vocabulary} (agree : AgreeExcept word first second)
  (role : Role) (backing : Backing) (branches : List Branch)

include agree

theorem write_eq_iff_reaches (operation : Operation) (listing : Listing) :
    (Target.mk role backing first).write operation branches listing =
        (Target.mk role backing second).write operation branches listing ↔
      first.text word = second.text word ∨
        ∀ branch ∈ branches, (Target.mk role backing first).treats operation branch = true →
          word.reaches role backing operation branch = false := by
  rw [write_eq_iff, (writtenFrom_codeAll role backing operation branches).code_eq_iff agree,
    mem_flatMap_codeWords word role backing operation branches first]
  simp only [not_exists, not_and, Bool.not_eq_true]

theorem initializers_eq_iff_reaches (constructor : Constructor) :
    (Target.mk role backing first).initializers constructor branches =
        (Target.mk role backing second).initializers constructor branches ↔
      first.text word = second.text word ∨
        ∀ branch ∈ branches, word.reachesConstructor role constructor branch = false := by
  simp only [initializers_eq_iff, initializer?_eq_iff role backing constructor _ agree,
    Bool.not_eq_true]
  constructor
  · intro each
    by_cases same : first.text word = second.text word
    · exact .inl same
    · exact .inr fun branch member => (each branch member).resolve_left same
  · rintro (same | unreached) branch member
    · exact .inl same
    · exact .inr (unreached branch member)

end TwoVocabularies

/-- Two vocabularies that differ in one word write the same code for an
operation, unless the texts for the word differ and the word reaches a branch
that the operation treats; then the code differs.  The same holds for the
initializers of each constructor.  What is declared, freed and reset depends on
no word, and of what a request chooses the namespace reaches the calls of the
runtime only and the capacity the allocations only. -/
theorem words_reach_own_code :
    (∀ (word : Word) (first second : Vocabulary), AgreeExcept word first second →
      ∀ role backing branches,
        (∀ operation listing,
          (Target.mk role backing first).write operation branches listing =
              (Target.mk role backing second).write operation branches listing ↔
            first.text word = second.text word ∨
              ∀ branch ∈ branches,
                (Target.mk role backing first).treats operation branch = true →
                  word.reaches role backing operation branch = false) ∧
          ∀ constructor,
            (Target.mk role backing first).initializers constructor branches =
                (Target.mk role backing second).initializers constructor branches ↔
              first.text word = second.text word ∨
                ∀ branch ∈ branches,
                  word.reachesConstructor role constructor branch = false) ∧
      (∀ role backing first second branches listing,
        ∀ operation ∈ [Operation.declare, .declarePointer, .deallocate, .reset],
          (Target.mk role backing first).write operation branches listing =
            (Target.mk role backing second).write operation branches listing) ∧
      ∀ (request : Invocation.Request) branches,
        (∀ runtime? listing operation, operation.callsRuntime = false →
          { request with runtime? := runtime? }.target.write operation branches listing =
            request.target.write operation branches listing) ∧
        (∀ capacity? listing operation, operation ≠ .allocate →
          { request with capacity? := capacity? }.target.write operation branches listing =
            request.target.write operation branches listing) ∧
        ∀ runtime? capacity? constructor,
          { request with runtime? := runtime?, capacity? := capacity? }.target.initializers
              constructor branches =
            request.target.initializers constructor branches := by
  refine ⟨fun word first second agree role backing branches => ⟨?_, ?_⟩, ?_, ?_⟩
  · exact write_eq_iff_reaches agree role backing branches
  · exact initializers_eq_iff_reaches agree role backing branches
  · intro role backing first second branches listing operation listed
    simp only [List.mem_cons, List.not_mem_nil, or_false] at listed
    rcases listed with rfl | rfl | rfl | rfl <;> rfl
  · refine fun request branches => ⟨?_, ?_, ?_⟩
    · intro runtime? listing operation offRuntime
      have agree := request.target.vocabulary.agreeExcept_withText
        { request with runtime? := runtime? }.target.vocabulary.runtime .runtime
      have written := write_eq_iff_reaches agree request.target.role request.target.backing
        branches operation listing
      exact (written.mpr (.inr fun _ _ _ => offRuntime)).symm
    · intro capacity? listing operation notAllocate
      have agree := request.target.vocabulary.agreeExcept_withText
        { request with capacity? := capacity? }.target.vocabulary.capacity .capacity
      have written := write_eq_iff_reaches agree request.target.role request.target.backing
        branches operation listing
      exact (written.mpr (.inr fun _ _ _ => beq_eq_false_iff_ne.mpr notAllocate)).symm
    · intro runtime? capacity? constructor
      rfl

/-- An entry with another function for its dimensions books an array otherwise
and a scalar as before, and the other operations on the array are as before. -/
theorem words_reach_own_code_formatter :
    AgreeExcept .formatter .standard { Vocabulary.standard with formatter := "fmt::sprintf" } ∧
      (Target.mk .entry .array .standard).write .book
          [⟨"v", .float32, .ofTokens ["n"], ⟨false, false⟩, "", ""⟩] Listing.empty ≠
        (Target.mk .entry .array { Vocabulary.standard with formatter := "fmt::sprintf" }).write
          .book [⟨"v", .float32, .ofTokens ["n"], ⟨false, false⟩, "", ""⟩] Listing.empty ∧
      (Target.mk .entry .array .standard).write .book
          [⟨"w", .bool, .ofTokens [], ⟨false, false⟩, "", ""⟩] Listing.empty =
        (Target.mk .entry .array { Vocabulary.standard with formatter := "fmt::sprintf" }).write
          .book [⟨"w", .bool, .ofTokens [], ⟨false, false⟩, "", ""⟩] Listing.empty ∧
      (Target.mk .entry .array .standard).write .bind
          [⟨"v", .float32, .ofTokens ["n"], ⟨false, false⟩, "", ""⟩] Listing.empty =
        (Target.mk .entry .array { Vocabulary.standard with formatter := "fmt::sprintf" }).write
          .bind [⟨"v", .float32, .ofTokens ["n"], ⟨false, false⟩, "", ""⟩] Listing.empty := by
  have agree : AgreeExcept .formatter .standard
      { Vocabulary.standard with formatter := "fmt::sprintf" } :=
    Vocabulary.standard.agreeExcept_withText "fmt::sprintf" .formatter
  have written (branches : List Branch) :=
    (words_reach_own_code.1 .formatter _ _ agree .entry .array branches).1
  refine ⟨agree, ?_, ?_, ?_⟩
  · intro same
    have unreached := ((written _ .book Listing.empty).mp same).resolve_left (by decide)
    exact absurd (unreached _ (List.mem_singleton_self _) rfl) (by decide)
  · exact (written _ .book Listing.empty).mpr (.inr (by decide))
  · exact (written _ .bind Listing.empty).mpr (.inr (by decide))

end Target

end ColumnCode

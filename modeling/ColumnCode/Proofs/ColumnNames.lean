import ColumnCode.Proofs.BookingFormat
import ColumnCode.Proofs.CallReading

/-!
# The column that a runtime call speaks of

Columns are told apart at run time by the full names that the runtime calls pass
on.  All calls for a branch pass the same tree and the same full name, whichever
way a storage holds its columns, and the name of the branch is read back from
the full name.  A storage and its elements speak of the same columns, and the
columns of an entry are named by their branches alone.
-/

namespace ColumnCode

open Definition (IsName Stops stops_cons continuesName)
open Standing (code quoted advance?)

namespace Vocabulary

/-- The expression that a class builds the full name of a column with.  A record
of a whole entry names the column only, and the other classes say whose column
it is. -/
def columnName (vocabulary : Vocabulary) (role : Role) (name : String) : String :=
  match role with
  | .storage | .element =>
      vocabulary.nameType ++ "(" ++ vocabulary.storageName ++ ", \"" ++ name ++ "\")"
  | .cached => vocabulary.nameType ++ "(" ++ vocabulary.recordName ++ ", \"" ++ name ++ "\")"
  | .entry => vocabulary.nameType ++ "(\"" ++ name ++ "\")"

/-- The words in front of the full name are such that a reader of a call finds
the arguments. -/
structure IsReadable (vocabulary : Vocabulary) : Prop where
  runtime : '(' ∉ vocabulary.runtime.toList
  tree : IsWhole vocabulary.tree
  nameType : IsWhole vocabulary.nameType
  storageName : IsWhole vocabulary.storageName
  recordName : IsWhole vocabulary.recordName

theorem isReadable_standard : standard.IsReadable where
  runtime := by decide
  tree := by decide +kernel
  nameType := by decide +kernel
  storageName := by decide +kernel
  recordName := by decide +kernel

end Vocabulary

/-- The name in quotes that an expression for a full name ends with. -/
def namedColumn? (expression : String) : Option String :=
  match expression.toList.reverse with
  | ')' :: '"' :: reversed =>
      some (String.ofList (reversed.takeWhile (· != '"')).reverse)
  | _ => none

namespace Definition.IsName

variable {name : String} (isName : IsName name.toList)

include isName

theorem quote_not_mem : '"' ∉ name.toList :=
  isName.not_mem (by decide)

/-- In quotes a name stands for itself: it ends no quotes and begins no escape. -/
theorem foldlM_quoted (depth : Nat) :
    name.toList.foldlM advance? (quoted depth) = some (quoted depth) := by
  apply foldlM_eq_self
  intro character member
  have notQuote : character ≠ '"' := fun same => isName.quote_not_mem (same ▸ member)
  have notEscape : character ≠ '\\' := by
    rintro rfl
    exact isName.not_mem (by decide) member
  simp [advance?, notQuote, notEscape]

theorem isWhole : IsWhole name := by
  apply foldlM_eq_self
  intro character member
  have ne {other : Char} (outside : continuesName other = false) : character ≠ other := by
    rintro rfl
    exact isName.not_mem outside member
  simp [advance?, Standing.opens, Standing.closes,
    ne (show continuesName '"' = false by decide), ne (show continuesName ',' = false by decide),
    ne (show continuesName '(' = false by decide), ne (show continuesName ')' = false by decide),
    ne (show continuesName '[' = false by decide), ne (show continuesName ']' = false by decide),
    ne (show continuesName '\x7b' = false by decide),
    ne (show continuesName '\x7d' = false by decide)]

theorem namedColumn?_append_quoted (before : String) :
    namedColumn? (before ++ "\"" ++ name ++ "\")") = some name := by
  have text : (before ++ "\"" ++ name ++ "\")").toList.reverse =
      ')' :: '"' :: (name.toList.reverse ++ '"' :: before.toList.reverse) := by
    simp
  have inside : ∀ character ∈ name.toList.reverse, (character != '"') = true := by
    intro character member
    apply bne_iff_ne.mpr
    rintro rfl
    exact isName.quote_not_mem (List.mem_reverse.mp member)
  have stops : Stops (· != '"') ('"' :: before.toList.reverse) := stops_cons.mpr (by decide)
  rw [namedColumn?, text]
  simp [Definition.takeWhile_of_stops inside stops]

/-- The name of a column is read back from its full name. -/
theorem namedColumn?_columnName (vocabulary : Vocabulary) (role : Role) :
    namedColumn? (vocabulary.columnName role name) = some name := by
  have written (before : String) := isName.namedColumn?_append_quoted before
  cases role with
  | storage | element =>
      rw [← written (vocabulary.nameType ++ "(" ++ vocabulary.storageName ++ ", ")]
      simp only [Vocabulary.columnName, String.append_assoc]
      rfl
  | cached =>
      rw [← written (vocabulary.nameType ++ "(" ++ vocabulary.recordName ++ ", ")]
      simp only [Vocabulary.columnName, String.append_assoc]
      rfl
  | entry =>
      rw [← written (vocabulary.nameType ++ "(")]
      simp only [Vocabulary.columnName, String.append_assoc]
      rfl

end Definition.IsName

/-- A name in quotes that closes a bracket, possibly behind another argument. -/
theorem isWhole_qualified {nameType name : String} (isType : IsWhole nameType)
    (isName : IsName name.toList) {before : List Char}
    (inBrackets : before.foldlM advance? (code 1) = some (code 1)) :
    (nameType.toList ++ '(' :: (before ++ '"' :: (name.toList ++ ['"', ')']))).foldlM advance?
      (code 0) = some (code 0) := by
  have opened : advance? (code 0) '(' = some (code 1) := by decide
  have quoting : advance? (code 1) '"' = some (quoted 1) := by decide
  have unquoted : advance? (quoted 1) '"' = some (code 1) := by decide
  have closed : advance? (code 1) ')' = some (code 0) := by decide
  have inQuotes := isName.foldlM_quoted 1
  unfold IsWhole at isType
  simp only [List.foldlM_append, List.foldlM_cons, List.foldlM_nil, isType, opened, inBrackets,
    quoting, inQuotes, unquoted, closed, Option.bind_eq_bind, Option.bind_some, Option.pure_def]

theorem Vocabulary.IsReadable.isWhole_columnName {vocabulary : Vocabulary}
    (readable : vocabulary.IsReadable) (role : Role) {name : String}
    (isName : IsName name.toList) : IsWhole (vocabulary.columnName role name) := by
  have owned {owner : String} (isOwner : IsWhole owner) :
      IsWhole (vocabulary.nameType ++ "(" ++ owner ++ ", \"" ++ name ++ "\")") := by
    have comma : [',', ' '].foldlM advance? (code 1) = some (code 1) := by decide
    have inBrackets : (owner.toList ++ [',', ' ']).foldlM advance? (code 1) = some (code 1) := by
      rw [List.foldlM_append, isOwner.foldlM_code 1]
      exact comma
    have scanned := isWhole_qualified readable.nameType isName inBrackets
    simpa [IsWhole] using scanned
  cases role with
  | storage | element => exact owned readable.storageName
  | cached => exact owned readable.recordName
  | entry =>
      have inBrackets : ([] : List Char).foldlM advance? (code 1) = some (code 1) := rfl
      have scanned := isWhole_qualified readable.nameType isName inBrackets
      simpa [IsWhole, Vocabulary.columnName] using scanned

/-- The function of the persistence runtime that an operation calls. -/
def Operation.calledFunction : Operation → String
  | .enable => "setStatus"
  | .bind => "setAddress"
  | .book => "book"
  | .release => "resetAddress"
  | _ => ""

namespace Target

variable {target : Target} {branch : Branch}

theorem fullName_eq (target : Target) (branch : Branch) :
    target.fullName branch = target.vocabulary.columnName target.role branch.name := by
  rcases target with ⟨role, backing, vocabulary⟩
  cases role <;>
    simp only [fullName, owner?, Vocabulary.columnName, String.append_assoc,
      String.empty_append] <;>
    rfl

/-- What an operation passes to the runtime behind the tree and the full name. -/
def furtherArguments (target : Target) (branch : Branch) : Operation → List String
  | .enable => [target.vocabulary.selection]
  | .bind => [target.address branch, target.vocabulary.selection, target.vocabulary.enableFlag]
  | .book =>
      (if target.usesVectors then
        ["\"" ++ vectorType branch ++ "\""]
      else
        [target.bookedShape branch, "'" ++ String.singleton branch.scalar.letter ++ "'"]) ++
        [target.address branch, target.vocabulary.selection]
  | _ => []

/-- Every operation that calls the runtime does so by one line for a branch that
is not transient. -/
theorem code_of_callsRuntime {operation : Operation} (callsRuntime : operation.callsRuntime = true)
    (persistent : branch.modifiers.transient = false) :
    target.code operation branch =
      [target.runtimeCall operation.calledFunction branch
        (target.furtherArguments branch operation)] := by
  cases operation with
  | enable | bind | book | release =>
      simp only [code, treats, persistent, Bool.and_false, Bool.not_false, Bool.and_true,
        Operation.supportedBy, if_true]
      rfl
  | declare | declarePointer | allocate | deallocate | assign | reset | dump =>
      exact absurd callsRuntime Bool.false_ne_true

/-- The line of an operation shows the tree and the full name in front of all
that the operation passes on. -/
theorem runtimeCall_eq (target : Target) (function : String) (branch : Branch)
    (arguments : List String) :
    target.runtimeCall function branch arguments =
      target.vocabulary.runtimeFunction function ++ "(" ++ target.vocabulary.tree ++ ", " ++
        target.vocabulary.columnName target.role branch.name ++
        (String.join (arguments.map (", " ++ ·)) ++ ");") := by
  rw [runtimeCall, Text.intercalate_cons, fullName_eq]
  simp only [List.map_cons, String.join_cons, String.append_assoc]

/-- A reader of the line finds the arguments that an operation passes on, the
tree and the full name before them. -/
theorem argument?_runtimeCall (target : Target) (operation : Operation)
    (readable : target.vocabulary.IsReadable) (isName : IsName branch.name.toList)
    {arguments : List String} {number : Nat} {argument : String}
    (listed : (target.vocabulary.tree ::
      target.vocabulary.columnName target.role branch.name :: arguments)[number]? = some argument)
    (whole : ∀ other ∈ arguments.take (number - 1), IsWhole other) :
    argument? (target.runtimeCall operation.calledFunction branch arguments) number =
      some argument := by
  have plain : '(' ∉ (target.vocabulary.runtimeFunction operation.calledFunction).toList := by
    have ofFunction : '(' ∉ operation.calledFunction.toList := by
      cases operation <;> decide
    unfold Vocabulary.runtimeFunction
    split <;> simp [ofFunction, readable.runtime]
  rw [runtimeCall, fullName_eq]
  apply argument?_call plain listed
  have wholeName := readable.isWhole_columnName target.role isName
  intro other member
  cases number with
  | zero =>
      obtain rfl : other = target.vocabulary.tree := by simpa using member
      exact readable.tree
  | succ number =>
      rw [List.take_succ_cons, List.take_succ_cons, List.mem_cons, List.mem_cons] at member
      rcases member with rfl | rfl | isFurther
      · exact readable.tree
      · exact wholeName
      · exact whole other isFurther

/-- What follows the full name in a line is more arguments or the end of the
call. -/
theorem further_eq (arguments : List String) :
    String.join (arguments.map (", " ++ ·)) ++ ");" = ");" ∨
      ∃ others, String.join (arguments.map (", " ++ ·)) ++ ");" = ", " ++ others ++ ");" := by
  cases arguments with
  | nil => exact .inl rfl
  | cons first others =>
      refine .inr ⟨first ++ String.join (others.map (", " ++ ·)), ?_⟩
      simp only [List.map_cons, String.join_cons, String.append_assoc]

/-- Names are told apart by the expressions for their columns. -/
theorem columnName_eq_iff (vocabulary : Vocabulary) (role : Role) {first second : String}
    (isFirst : IsName first.toList) (isSecond : IsName second.toList) :
    vocabulary.columnName role first = vocabulary.columnName role second ↔ first = second := by
  constructor
  · intro same
    have named := isFirst.namedColumn?_columnName vocabulary role
    rw [same, isSecond.namedColumn?_columnName] at named
    exact (Option.some.inj named).symm
  · rintro rfl
    rfl

/-- All lines by which an operation calls the runtime for a branch have the same
first two arguments, the tree and the full name of the column.  The full name is
the same for all ways to hold the column, the name of the branch is read back
from it, so that it tells branches with different names apart, a storage shares
it with its elements, and an entry builds it without the name of an owner. -/
theorem runtime_calls_name_one_column (vocabulary : Vocabulary) :
    (∀ role backing branch, (∃ line, (Branch.read line).value = .ok branch) →
        branch.modifiers.transient = false →
        ∀ operation : Operation, operation.callsRuntime = true →
          ∃ line further, (Target.mk role backing vocabulary).code operation branch = [line] ∧
            line = vocabulary.runtimeFunction operation.calledFunction ++ "(" ++
              vocabulary.tree ++ ", " ++ vocabulary.columnName role branch.name ++ further ∧
            (further = ");" ∨ ∃ others, further = ", " ++ others ++ ");") ∧
            (vocabulary.IsReadable → argument? line 0 = some vocabulary.tree ∧
              argument? line 1 = some (vocabulary.columnName role branch.name))) ∧
      (∀ role first second, (∃ line, (Branch.read line).value = .ok first) →
        (∃ line, (Branch.read line).value = .ok second) →
        namedColumn? (vocabulary.columnName role first.name) = some first.name ∧
          (vocabulary.columnName role first.name = vocabulary.columnName role second.name ↔
            first.name = second.name)) ∧
      (∀ name, vocabulary.columnName .storage name = vocabulary.columnName .element name) ∧
      ∀ storageName recordName name,
        { vocabulary with storageName := storageName, recordName := recordName }.columnName
          .entry name = vocabulary.columnName .entry name := by
  refine ⟨?_, ?_, fun _ => rfl, fun _ _ _ => rfl⟩
  · rintro role backing branch ⟨definition, accepted⟩ persistent operation callsRuntime
    have isName := (Branch.wellFormed_of_read accepted).isName
    let target : Target := ⟨role, backing, vocabulary⟩
    refine ⟨_, _, code_of_callsRuntime callsRuntime persistent,
      target.runtimeCall_eq operation.calledFunction branch _, further_eq _, fun readable => ?_⟩
    exact ⟨target.argument?_runtimeCall operation readable isName rfl (by simp),
      target.argument?_runtimeCall operation readable isName rfl (by simp)⟩
  · rintro role first second ⟨firstLine, acceptedFirst⟩ ⟨secondLine, acceptedSecond⟩
    have isFirst := (Branch.wellFormed_of_read acceptedFirst).isName
    have isSecond := (Branch.wellFormed_of_read acceptedSecond).isName
    exact ⟨isFirst.namedColumn?_columnName vocabulary role,
      columnName_eq_iff vocabulary role isFirst isSecond⟩

/-- Two columns of a cached record, an array and a scalar, with the line that
books the array and the line that unbinds it. -/
theorem runtime_calls_name_one_column_cached :
    (Branch.read "v[n]/F").value = .ok ⟨"v", .float32, .ofTokens ["n"], ⟨false, false⟩, "", ""⟩ ∧
      (Branch.read "w/O").value = .ok ⟨"w", .bool, .ofTokens [], ⟨false, false⟩, "", ""⟩ ∧
      Vocabulary.standard.IsReadable ∧
      (∃ line, (Target.mk .cached .array .standard).code .book
          ⟨"v", .float32, .ofTokens ["n"], ⟨false, false⟩, "", ""⟩ = [line] ∧
        argument? line 1 = some "BranchName(name_, \"v\")") ∧
      (∃ line, (Target.mk .cached .vector .standard).code .release
          ⟨"v", .float32, .ofTokens ["n"], ⟨false, false⟩, "", ""⟩ = [line] ∧
        argument? line 1 = some "BranchName(name_, \"v\")") ∧
      Vocabulary.standard.columnName .cached "v" ≠ Vocabulary.standard.columnName .cached "w" := by
  have array : (Branch.read "v[n]/F").value =
      .ok ⟨"v", .float32, .ofTokens ["n"], ⟨false, false⟩, "", ""⟩ := by decide +kernel
  have scalar : (Branch.read "w/O").value =
      .ok ⟨"w", .bool, .ofTokens [], ⟨false, false⟩, "", ""⟩ := by decide +kernel
  obtain ⟨calls, names, -, -⟩ := runtime_calls_name_one_column .standard
  have called (backing : Backing) (operation : Operation)
      (callsRuntime : operation.callsRuntime = true) :=
    calls .cached backing _ ⟨_, array⟩ rfl operation callsRuntime
  refine ⟨array, scalar, Vocabulary.isReadable_standard, ?_, ?_, ?_⟩
  · obtain ⟨line, -, code, -, -, read⟩ := called .array .book rfl
    exact ⟨line, code, (read Vocabulary.isReadable_standard).2⟩
  · obtain ⟨line, -, code, -, -, read⟩ := called .vector .release rfl
    exact ⟨line, code, (read Vocabulary.isReadable_standard).2⟩
  · intro same
    exact absurd ((names .cached _ _ ⟨_, array⟩ ⟨_, scalar⟩).2.mp same) (by decide)

end Target

end ColumnCode

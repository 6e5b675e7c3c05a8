import ColumnCode.Proofs.BranchDefinition
import ColumnCode.Target.Code

/-!
# Generated code keeps its lines

Every line that an operation or a constructor contributes is one line: it is
not empty and has no line break inside.  The parts of a branch bring none
because its definition was read from one line, and the words of the vocabulary
bring none if they are chosen so.
-/

namespace ColumnCode

namespace Text

/-- A text without a line break. -/
def OnLine (text : String) : Prop :=
  '\n' ∉ text.toList

instance (text : String) : Decidable (OnLine text) :=
  inferInstanceAs (Decidable ('\n' ∉ text.toList))

@[simp]
theorem onLine_append {first second : String} :
    OnLine (first ++ second) ↔ OnLine first ∧ OnLine second := by
  simp [OnLine]

@[simp]
theorem onLine_push {text : String} {character : Char} :
    OnLine (text.push character) ↔ OnLine text ∧ character ≠ '\n' := by
  simp [OnLine, eq_comm]

theorem onLine_join {texts : List String} (all : ∀ text ∈ texts, OnLine text) :
    OnLine (String.join texts) := by
  simpa [OnLine] using all

theorem onLine_intercalate {separator : String} {texts : List String}
    (between : OnLine separator) (all : ∀ text ∈ texts, OnLine text) :
    OnLine (separator.intercalate texts) := by
  induction texts with
  | nil => simp [OnLine]
  | cons text texts ih =>
      obtain ⟨first, others⟩ := List.forall_mem_cons.mp all
      cases texts with
      | nil => simpa using first
      | cons next texts =>
          rw [String.intercalate_cons_cons]
          simp only [onLine_append]
          exact ⟨⟨first, between⟩, ih others⟩

theorem onLine_repr (number : Nat) : OnLine number.repr := by
  intro member
  have inDigits : '\n' ∈ Nat.toDigits 10 number := by simpa using member
  exact absurd (Nat.isDigit_of_mem_toDigits (by decide) (by decide) inDigits) (by decide)

theorem onLine_ite {condition : Prop} [Decidable condition] {first second : String}
    (onFirst : OnLine first) (onSecond : OnLine second) :
    OnLine (if condition then first else second) := by
  split
  · exact onFirst
  · exact onSecond

end Text

open Text (OnLine)

theorem Scalar.onLine_typeName (scalar : Scalar) : OnLine scalar.typeName := by
  cases scalar <;> decide

theorem Shape.toList_arrayOf (element extent : String) :
    (arrayOf element extent).toList =
      "std::array<".toList ++ (element.toList ++ ',' :: ' ' :: (extent.toList ++ ['>'])) := by
  simp [arrayOf]

/-- The layers of an array type bring no character but their own. -/
theorem Shape.not_mem_wrap {character : Char} (layers : character ∉ "std::array<, >".toList)
    {shape : Shape} (absent : ∀ spelling ∈ shape.spellings, character ∉ spelling.toList)
    {element : String} (inner : character ∉ element.toList) :
    character ∉ (shape.wrap element).toList := by
  unfold wrap
  generalize shape.spellings = spellings at absent ⊢
  induction spellings with
  | nil => exact inner
  | cons spelling spellings ih =>
      obtain ⟨first, others⟩ := List.forall_mem_cons.mp absent
      have wrapped := ih others
      rw [List.foldr_cons, toList_arrayOf]
      simp only [String.reduceToList, List.mem_cons, not_or] at layers
      simp [first, wrapped, layers]

namespace Statement

theorem onLine_render_fill {value range : String} (onValue : OnLine value)
    (onRange : OnLine range) (depth rank : Nat) :
    OnLine (fill value range depth rank).render := by
  induction rank generalizing depth range with
  | zero => simp +decide [fill, render, onValue, onRange]
  | succ rank ih =>
      have variableOnLine : OnLine (loopVariable depth) := by
        simp +decide [loopVariable, Text.onLine_repr]
      have inner := ih variableOnLine (depth + 1)
      simp +decide [fill, render, variableOnLine, onRange, inner]

end Statement

/-- All words of the vocabulary are without line breaks. -/
structure Vocabulary.OnLine (vocabulary : Vocabulary) : Prop where
  runtime : Text.OnLine vocabulary.runtime
  nameType : Text.OnLine vocabulary.nameType
  formatter : Text.OnLine vocabulary.formatter
  tree : Text.OnLine vocabulary.tree
  selection : Text.OnLine vocabulary.selection
  enableFlag : Text.OnLine vocabulary.enableFlag
  storageName : Text.OnLine vocabulary.storageName
  recordName : Text.OnLine vocabulary.recordName
  capacity : Text.OnLine vocabulary.capacity
  entrySize : Text.OnLine vocabulary.entrySize
  origin : Text.OnLine vocabulary.origin
  ownStore : Text.OnLine vocabulary.ownStore
  givenStore : Text.OnLine vocabulary.givenStore
  givenPosition : Text.OnLine vocabulary.givenPosition
  printStream : Text.OnLine vocabulary.printStream
  printIndent : Text.OnLine vocabulary.printIndent

theorem Vocabulary.onLine_standard : Vocabulary.standard.OnLine := by
  constructor <;> decide

/-- All texts of the branch are without line breaks. -/
structure Branch.OnLine (branch : Branch) : Prop where
  name : Text.OnLine branch.name
  spellings : ∀ spelling ∈ branch.shape.spellings, Text.OnLine spelling
  initializer : Text.OnLine branch.initializer
  comment : Text.OnLine branch.comment

theorem Branch.WellFormed.onLine {branch : Branch} (wellFormed : branch.WellFormed) :
    branch.OnLine where
  name := wellFormed.isName.newline_not_mem
  spellings := by
    intro spelling member
    exact (wellFormed.wellFormed_definition.areTokens spelling member).newline_not_mem
  initializer := by
    rcases wellFormed.initializer with absent | isLiteral
    · rw [absent]
      decide
    · exact isLiteral.not_mem (by decide)
  comment := by
    rcases wellFormed.comment with absent | ⟨body, -, onLine, present⟩
    · rw [absent]
      decide
    · rw [present, Text.onLine_append]
      exact ⟨by decide, onLine⟩

namespace Branch.OnLine

variable {branch : Branch}

theorem memberType (parts : branch.OnLine) : Text.OnLine branch.memberType :=
  Shape.not_mem_wrap (by decide) parts.spellings branch.scalar.onLine_typeName

theorem resetValue (parts : branch.OnLine) : Text.OnLine branch.resetValue := by
  refine Text.onLine_ite ?_ parts.initializer
  cases branch.scalar <;> decide

theorem resetStatement (parts : branch.OnLine) : Text.OnLine branch.resetStatement.render :=
  Statement.onLine_render_fill parts.resetValue parts.name 0 branch.shape.rank

end Branch.OnLine

namespace Target

variable {target : Target} {branch : Branch}

theorem onLine_vectorType (parts : branch.OnLine) : OnLine (vectorType branch) := by
  simp +decide [vectorType, parts.memberType]

theorem onLine_pointerName (parts : branch.OnLine) : OnLine (pointerName branch) := by
  simp +decide [pointerName, parts.name]

theorem onLine_address (parts : branch.OnLine) : OnLine (target.address branch) := by
  refine Text.onLine_ite ?_ (Text.onLine_ite parts.name ?_)
  · simp +decide [onLine_pointerName parts]
  · simp +decide [parts.name]

theorem onLine_declaration (parts : branch.OnLine) : OnLine (target.declaration branch) := by
  have declarator : OnLine (target.declarator branch) := by
    have mutable : OnLine (if branch.modifiers.mutable = true then "mutable " else "") :=
      Text.onLine_ite (by decide) (by decide)
    unfold Target.declarator
    split <;> simp +decide [mutable, onLine_vectorType parts, parts.memberType, parts.name,
      parts.initializer]
  simp only [declaration, Text.onLine_append]
  exact ⟨⟨declarator, Text.onLine_ite (by decide) (by decide)⟩,
    Text.onLine_ite (by decide) parts.comment⟩

theorem onLine_pointerDeclaration (parts : branch.OnLine) :
    OnLine (pointerDeclaration branch) := by
  simp +decide [pointerDeclaration, onLine_vectorType parts, onLine_pointerName parts, parts.name]

theorem onLine_allocation (words : target.vocabulary.OnLine) (parts : branch.OnLine) :
    ∀ line ∈ target.allocation branch, OnLine line := by
  unfold allocation
  split <;> simp +decide [words.capacity, parts.name, parts.memberType]

theorem onLine_deallocation (parts : branch.OnLine) :
    ∀ line ∈ target.deallocation branch, OnLine line := by
  unfold deallocation
  split <;> simp +decide [parts.name]

theorem onLine_assignment (words : target.vocabulary.OnLine) (parts : branch.OnLine) :
    OnLine (target.assignment branch) := by
  have product : OnLine branch.shape.product :=
    Text.onLine_intercalate (by decide) parts.spellings
  have typeName := branch.scalar.onLine_typeName
  refine Text.onLine_ite ?_ ?_
  · simp +decide [words.origin, parts.name, typeName, product]
  · simp +decide [words.origin, parts.name]

theorem onLine_formatDimension (dimension : Dimension) : OnLine (formatDimension dimension) := by
  cases dimension with
  | literal spelling value => simp +decide [formatDimension, Text.onLine_repr]
  | symbol spelling =>
      change OnLine "[%d]"
      decide

theorem onLine_formattedShape (words : target.vocabulary.OnLine) (parts : branch.OnLine) :
    OnLine (target.formattedShape branch.shape) := by
  have pattern : OnLine (String.join (branch.shape.dimensions.map formatDimension)) := by
    refine Text.onLine_join fun text member => ?_
    obtain ⟨dimension, -, rfl⟩ := List.mem_map.mp member
    exact onLine_formatDimension dimension
  have arguments : ∀ argument ∈ branch.shape.dimensions.filterMap formatArgument?,
      OnLine argument := by
    intro argument member
    obtain ⟨dimension, isMember, filled⟩ := List.mem_filterMap.mp member
    have spelling := parts.spellings dimension.spelling (List.mem_map_of_mem isMember)
    cases dimension with
    | literal text value => simp [formatArgument?] at filled
    | symbol text =>
        obtain rfl := Option.some.inj filled
        exact spelling
  have list : OnLine (", ".intercalate
      (("\"" ++ String.join (branch.shape.dimensions.map formatDimension) ++ "\"") ::
        branch.shape.dimensions.filterMap formatArgument?)) :=
    Text.onLine_intercalate (by decide)
      (List.forall_mem_cons.mpr ⟨by simp +decide [pattern], arguments⟩)
  simp only [formattedShape, Text.onLine_append]
  exact ⟨⟨⟨words.formatter, by decide⟩, list⟩, by decide⟩

theorem onLine_bookedShape (words : target.vocabulary.OnLine) (parts : branch.OnLine) :
    OnLine (target.bookedShape branch) := by
  refine Text.onLine_ite ?_ (Text.onLine_ite words.entrySize (by decide))
  rw [Text.onLine_append]
  refine ⟨Text.onLine_ite ?_ (by decide), onLine_formattedShape words parts⟩
  simp +decide [words.entrySize]

theorem onLine_fullName (words : target.vocabulary.OnLine) (parts : branch.OnLine) :
    OnLine (target.fullName branch) := by
  unfold fullName owner?
  cases target.role <;>
    simp +decide [words.nameType, words.storageName, words.recordName, parts.name]

theorem onLine_runtimeCall (words : target.vocabulary.OnLine) (parts : branch.OnLine)
    {function : String} (onFunction : OnLine function) {arguments : List String}
    (onArguments : ∀ argument ∈ arguments, OnLine argument) :
    OnLine (target.runtimeCall function branch arguments) := by
  have runtime : OnLine (target.vocabulary.runtimeFunction function) := by
    refine Text.onLine_ite onFunction ?_
    simp +decide [words.runtime, onFunction]
  have list : OnLine (", ".intercalate
      (target.vocabulary.tree :: target.fullName branch :: arguments)) :=
    Text.onLine_intercalate (by decide) (List.forall_mem_cons.mpr ⟨words.tree,
      List.forall_mem_cons.mpr ⟨onLine_fullName words parts, onArguments⟩⟩)
  simp only [runtimeCall, Text.onLine_append]
  exact ⟨⟨⟨runtime, by decide⟩, list⟩, by decide⟩

theorem onLine_booking (words : target.vocabulary.OnLine) (parts : branch.OnLine) :
    OnLine (target.booking branch) := by
  refine onLine_runtimeCall words parts (by decide) ?_
  have letter := branch.scalar.letter_ne_newline
  split <;>
    simp +decide [onLine_vectorType parts, onLine_bookedShape words parts, letter,
      onLine_address parts, words.selection]

theorem onLine_printing (words : target.vocabulary.OnLine) (parts : branch.OnLine) :
    OnLine (target.printing branch) := by
  have printed : OnLine (printedValue branch) := by
    unfold printedValue
    split
    next wider widened =>
      refine Text.onLine_ite parts.name ?_
      simp +decide [wider.onLine_typeName, parts.name]
    next => exact parts.name
  simp +decide [printing, words.printStream, words.printIndent, parts.name, printed]

/-- No operation breaks one of its lines. -/
theorem onLine_of_mem_body (words : target.vocabulary.OnLine) (parts : branch.OnLine)
    {operation : Operation} : ∀ line ∈ target.body operation branch, OnLine line := by
  cases operation with
  | declare => simpa [body] using onLine_declaration parts
  | declarePointer => simpa [body] using onLine_pointerDeclaration parts
  | allocate => exact onLine_allocation words parts
  | deallocate => exact onLine_deallocation parts
  | assign => simpa [body] using onLine_assignment words parts
  | reset => simpa [body] using parts.resetStatement
  | enable =>
      simpa [body, enabling] using
        onLine_runtimeCall words parts (by decide) (by simp [words.selection])
  | bind =>
      simpa [body, binding] using onLine_runtimeCall words parts (by decide)
        (by simp [onLine_address parts, words.selection, words.enableFlag])
  | book => simpa [body] using onLine_booking words parts
  | release =>
      simpa [body, releasing] using onLine_runtimeCall words parts (by decide) (by simp)
  | dump => simpa [body] using onLine_printing words parts

theorem ne_empty_of_mem_body {operation : Operation} :
    ∀ line ∈ target.body operation branch, line ≠ "" := by
  cases operation with
  | declare =>
      have declarator : target.declarator branch ≠ "" := by
        unfold Target.declarator
        split <;> simp
      simp [body, declaration, declarator]
  | declarePointer => simp [body, pointerDeclaration]
  | allocate =>
      simp only [body, allocation]
      split <;> simp
  | deallocate =>
      simp only [body, deallocation]
      split <;> simp
  | assign =>
      simp only [body, assignment]
      split <;> simp
  | reset =>
      have statement : branch.resetStatement.render ≠ "" := by
        cases branch.resetStatement <;> simp [Statement.render]
      simp [body, statement]
  | enable => simp [body, enabling, runtimeCall]
  | bind => simp [body, binding, runtimeCall]
  | book => simp [body, booking, runtimeCall]
  | release => simp [body, releasing, runtimeCall]
  | dump => simp [body, printing]

theorem exists_body_of_mem_codeAll {operation : Operation} {branches : List Branch} {line : String}
    (member : line ∈ target.codeAll operation branches) :
    ∃ branch ∈ branches, line ∈ target.body operation branch := by
  obtain ⟨branch, isBranch, inCode⟩ := List.mem_flatMap.mp member
  unfold code at inCode
  split at inCode
  · exact ⟨branch, isBranch, inCode⟩
  · simp at inCode

theorem onLine_initializer (words : target.vocabulary.OnLine) (parts : branch.OnLine)
    {constructor : Constructor} {line : String}
    (initialized : target.initializer? constructor branch = some line) :
    line ≠ "" ∧ OnLine line := by
  have copied {line : String}
      (initialized : (if branch.isArray = true then none
        else some (branch.name ++ "(" ++ target.vocabulary.origin ++ "." ++ branch.name ++ ")")) =
          some line) : line ≠ "" ∧ OnLine line := by
    split at initialized
    next => simp at initialized
    next =>
      obtain rfl := Option.some.inj initialized
      simp +decide [parts.name, words.origin]
  unfold initializer? at initialized
  split at initialized
  next =>
    obtain rfl := Option.some.inj initialized
    simp +decide [parts.name, words.givenStore, words.givenPosition]
  next =>
    obtain rfl := Option.some.inj initialized
    simp +decide [parts.name, words.ownStore]
  next => exact copied initialized
  next => exact copied initialized
  next => simp at initialized

end Target

end ColumnCode

import ColumnCode.Proofs.StatementReading
import Mathlib.Data.List.Forall2
import Mathlib.Data.List.Nodup

/-!
# What a statement does

A statement is run in a scope, which says what each name stands for, on a
memory, which says what each cell holds.  A loop lets its variable stand for
the elements of its range in turn, inside its body only, and an assignment
stores what its literal is worth where it stands.

How a literal that is not the name of a variable gets its value is left open.
-/

namespace ColumnCode

open Definition (IsName IsRun inLiteral)

/-- Where a single value is kept: a variable, and an index for each array
around the value, outermost first. -/
structure Cell where
  root : String
  indices : List Nat
  deriving DecidableEq, Repr

namespace Cell

def element (cell : Cell) (index : Nat) : Cell where
  root := cell.root
  indices := cell.indices ++ [index]

/-- The cells of all values in an array with the extents, in the order of
their indices.  Without extents the cell holds the one value. -/
def leaves : Cell → List Nat → List Cell
  | cell, [] => [cell]
  | cell, extent :: extents =>
      (List.range extent).flatMap fun index => (cell.element index).leaves extents

theorem mem_leaves_iff {cell leaf : Cell} {extents : List Nat} :
    leaf ∈ cell.leaves extents ↔
      ∃ indices, List.Forall₂ (· < ·) indices extents ∧
        leaf = ⟨cell.root, cell.indices ++ indices⟩ := by
  induction extents generalizing cell with
  | nil => simp [leaves]
  | cons extent extents ih =>
      simp only [leaves, List.mem_flatMap, List.mem_range, ih, element, List.append_assoc,
        List.singleton_append, List.forall₂_cons_right_iff]
      constructor
      · rintro ⟨index, inside, indices, insides, rfl⟩
        exact ⟨index :: indices, ⟨index, indices, inside, insides, rfl⟩, rfl⟩
      · rintro ⟨_, ⟨index, indices, inside, insides, rfl⟩, rfl⟩
        exact ⟨index, inside, indices, insides, rfl⟩

theorem root_of_mem_leaves {cell leaf : Cell} {extents : List Nat}
    (member : leaf ∈ cell.leaves extents) : leaf.root = cell.root := by
  obtain ⟨indices, -, rfl⟩ := mem_leaves_iff.mp member
  rfl

theorem nodup_leaves (cell : Cell) (extents : List Nat) : (cell.leaves extents).Nodup := by
  induction extents generalizing cell with
  | nil => simp [leaves]
  | cons extent extents ih =>
      refine List.nodup_flatMap.mpr ⟨fun index _ => ih (cell.element index), ?_⟩
      refine List.nodup_range.imp fun {first second} different => ?_
      intro leaf inFirst inSecond
      obtain ⟨_, -, rfl⟩ := mem_leaves_iff.mp inFirst
      obtain ⟨_, -, same⟩ := mem_leaves_iff.mp inSecond
      simp only [element, mk.injEq, List.append_assoc, List.singleton_append,
        List.append_cancel_left_eq, List.cons.injEq, true_and] at same
      exact different same.1

end Cell

/-- What a name stands for: a single value, or an array with its extents,
outermost first. -/
structure Object where
  cell : Cell
  extents : List Nat
  deriving DecidableEq, Repr

abbrev Scope := String → Option Object

section Memory

variable {Value : Type}

/-- The value of a single value.  An array has none. -/
def Object.held? (object : Object) (memory : Cell → Value) : Option Value :=
  match object.extents with
  | [] => some (memory object.cell)
  | _ :: _ => none

namespace Scope

/-- The values that names stand for. -/
def held (scope : Scope) (memory : Cell → Value) (name : String) : Option Value :=
  (scope name).bind (·.held? memory)

/-- The scope around all loops, where each variable stands for itself. -/
def enclosing (declared : String → Option (List Nat)) : Scope :=
  fun name => (declared name).map (Object.mk ⟨name, []⟩)

theorem held_update (scope : Scope) (name : String) (object : Object) (memory : Cell → Value) :
    held (Function.update scope name (some object)) memory =
      Function.update (scope.held memory) name (object.held? memory) := by
  funext other
  by_cases same : other = name
  · simp [held, same]
  · simp [held, same]

end Scope

end Memory

/-- A literal mentions the names between its signs.  What follows a dot names a
part of what stands before it. -/
def Mentions (text name : String) : Prop :=
  IsName name.toList ∧
    ∃ piece ∈ text.toList.splitOn '-', piece.takeWhile (· != '.') = name.toList

instance (text name : String) : Decidable (Mentions text name) :=
  inferInstanceAs (Decidable (_ ∧ _))

theorem mentions_self {name : String} (isName : IsName name.toList) : Mentions name name := by
  have noDot : name.toList.takeWhile (· != '.') = name.toList := by
    refine List.takeWhile_eq_self_iff.mpr fun character member => bne_iff_ne.mpr ?_
    rintro rfl
    exact isName.not_mem (by decide) member
  refine ⟨isName, name.toList, ?_, noDot⟩
  rw [List.splitOn_eq_singleton (isName.not_mem (by decide))]
  exact List.mem_singleton_self _

/-- A name that a variable can have.  The words for the truth values read like
names, but they are literals. -/
def IsVariableName (text : String) : Prop :=
  IsName text.toList ∧ text ∉ ["true", "false"]

instance (text : String) : Decidable (IsVariableName text) :=
  inferInstanceAs (Decidable (_ ∧ _))

theorem Statement.isVariableName_loopVariable (depth : Nat) :
    IsVariableName (loopVariable depth) := by
  have heads : ∀ word ∈ ["true", "false"], word.toList.head? ≠ some 'p' := by
    decide
  exact ⟨isName_loopVariable depth, fun isWord => heads _ isWord (by simp [loopVariable])⟩

/-- What literals are worth where names have values.  Names of variables are
worth what they stand for, and no literal depends on a name that it does not
mention.  Literals that change a variable while they are evaluated are given no
value. -/
structure Valuation (Value : Type) where
  value : (String → Option Value) → String → Option Value
  value_name : ∀ held name, IsVariableName name → value held name = held name
  value_congr : ∀ text, IsRun inLiteral text.toList → ∀ held other : String → Option Value,
    (∀ name, Mentions text name → held name = other name) → value held text = value other text

/-- The valuation in which every literal but the name of a variable is a
constant. -/
def Valuation.ofConstants {Value : Type} (constant : String → Option Value) : Valuation Value where
  value held text := if IsVariableName text then held text else constant text
  value_name held name isVariable := if_pos isVariable
  value_congr text _ held other agree := by
    by_cases isVariable : IsVariableName text
    · rw [if_pos isVariable, if_pos isVariable]
      exact agree text (mentions_self isVariable.1)
    · rw [if_neg isVariable, if_neg isVariable]

/-- The valuation in which the words for the truth values are worth these. -/
def Valuation.truthWords : Valuation Bool :=
  .ofConstants fun text =>
    if text = "true" then some true else if text = "false" then some false else none

section Loops

variable {Value : Type}

/-- A loop over lists one behind the other is a loop of loops. -/
theorem foldlM_flatMap {Index Element State : Type} (indices : List Index)
    (elements : Index → List Element) (step : State → Element → Option State) (state : State) :
    (indices.flatMap elements).foldlM step state =
      indices.foldlM (fun state index => (elements index).foldlM step state) state := by
  induction indices generalizing state with
  | nil => rfl
  | cons index indices ih => simp [List.foldlM_append, ih]

/-- One cell is changed on the way from one memory to another. -/
theorem forall_not_mem_eq_update_iff {first : Cell} {leaves : List Cell}
    (notLater : first ∉ leaves) {memory after : Cell → Value} {value : Value} :
    (∀ cell ∉ leaves, after cell = Function.update memory first value cell) ↔
      after first = value ∧ ∀ cell ∉ first :: leaves, after cell = memory cell := by
  constructor
  · intro outside
    refine ⟨by rw [outside first notLater, Function.update_self], fun cell isOutside => ?_⟩
    obtain ⟨different, notIn⟩ := not_or.mp (List.mem_cons.not.mp isOutside)
    rw [outside cell notIn, Function.update_of_ne different]
  · rintro ⟨rfl, outside⟩ cell notIn
    by_cases same : cell = first
    · rw [same, Function.update_self]
    · rw [Function.update_of_ne same]
      exact outside cell (List.not_mem_cons_of_ne_of_not_mem same notIn)

/-- Storing into one cell after the other leaves in each what was to be stored
there, if what is to be stored does not depend on the cells done before. -/
theorem foldlM_update_eq_some_iff {leaves : List Cell} (nodup : leaves.Nodup)
    {step : (Cell → Value) → Cell → Option Value} {stored : Cell → Option Value}
    {memory after : Cell → Value}
    (independent : ∀ between : Cell → Value, (∀ cell ∉ leaves, between cell = memory cell) →
      ∀ leaf ∈ leaves, between leaf = memory leaf → step between leaf = stored leaf) :
    leaves.foldlM (fun memory leaf => (step memory leaf).map (Function.update memory leaf))
        memory = some after ↔
      (∀ leaf ∈ leaves, stored leaf = some (after leaf)) ∧
        ∀ cell ∉ leaves, after cell = memory cell := by
  induction leaves generalizing memory with
  | nil => simp [funext_iff, eq_comm]
  | cons first leaves ih =>
      obtain ⟨notLater, nodup⟩ := List.nodup_cons.mp nodup
      rw [List.foldlM_cons, independent memory (fun _ _ => rfl) first List.mem_cons_self rfl,
        List.forall_mem_cons]
      cases meant : stored first with
      | none => simp
      | some value =>
          -- The later cells go on from the memory in which the first one is done,
          -- and it is none of theirs.
          have later : ∀ between : Cell → Value,
              (∀ cell ∉ leaves, between cell = Function.update memory first value cell) →
              ∀ leaf ∈ leaves, between leaf = Function.update memory first value leaf →
                step between leaf = stored leaf := by
            intro between outside leaf isLater untouched
            have different : leaf ≠ first := ne_of_mem_of_not_mem isLater notLater
            rw [Function.update_of_ne different] at untouched
            have outsideBoth := ((forall_not_mem_eq_update_iff notLater).mp outside).2
            exact independent between outsideBoth leaf (List.mem_cons_of_mem first isLater)
              untouched
          rw [Option.map_some, Option.bind_eq_bind, Option.bind_some, ih nodup later,
            forall_not_mem_eq_update_iff notLater, Option.some.injEq, eq_comm (a := value)]
          exact and_left_comm.trans and_assoc.symm

end Loops

namespace Statement

section Run

variable {Value : Type}

/-- Run a statement.  There is no result where an array is assigned to, a single
value is run through or a literal has no value. -/
def run (valuation : Valuation Value) :
    Statement → Scope → (Cell → Value) → Option (Cell → Value)
  | assign target text, scope, memory =>
      match scope target with
      | some ⟨cell, []⟩ =>
          (valuation.value (scope.held memory) text).map (Function.update memory cell)
      | _ => none
  | forEach variableName range body, scope, memory =>
      match scope range with
      | some ⟨cell, extent :: extents⟩ =>
          (List.range extent).foldlM (fun memory index =>
            body.run valuation
              (Function.update scope variableName (some ⟨cell.element index, extents⟩)) memory)
            memory
      | _ => none

/-- The values that names stand for inside the loops around an assignment.  The
innermost loop variable stands for what is assigned to, and the others stand
for arrays. -/
def heldInLoops (value : Value) : Nat → Nat → (String → Option Value) → String → Option Value
  | _, 0, held => held
  | depth, rank + 1, held =>
      heldInLoops value (depth + 1) rank
        (Function.update held (loopVariable depth) (if rank = 0 then some value else none))

theorem heldInLoops_of_ne {value : Value} {depth rank : Nat} {held : String → Option Value}
    {name : String}
    (noVariable : ∀ layer, depth ≤ layer → layer < depth + rank → name ≠ loopVariable layer) :
    heldInLoops value depth rank held name = held name := by
  induction rank generalizing depth held with
  | zero => rfl
  | succ rank ih =>
      rw [heldInLoops, ih fun layer above below => noVariable layer (by omega) (by omega)]
      exact Function.update_of_ne (noVariable depth le_rfl (by omega)) _ _

theorem heldInLoops_loopVariable {value : Value} {depth rank layer : Nat}
    {held : String → Option Value} (above : depth ≤ layer) (below : layer < depth + rank) :
    heldInLoops value depth rank held (loopVariable layer) =
      if layer + 1 = depth + rank then some value else none := by
  induction rank generalizing depth held with
  | zero => omega
  | succ rank ih =>
      rw [heldInLoops]
      rcases Nat.eq_or_lt_of_le above with rfl | deeper
      · have bound : ∀ inner, depth + 1 ≤ inner → inner < depth + 1 + rank →
            loopVariable depth ≠ loopVariable inner := by
          intro inner isInner _ same
          have := loopVariable_injective same
          omega
        rw [heldInLoops_of_ne bound, Function.update_self]
        simp
      · rw [ih deeper (by omega), Nat.succ_add_eq_add_succ]

/-- The loops of a reset assign to one value after the other. -/
theorem run_fill (valuation : Valuation Value) (text : String) {range : String} {cell : Cell}
    {extents : List Nat} {scope : Scope} (bound : scope range = some ⟨cell, extents⟩)
    (depth : Nat) (memory : Cell → Value) :
    (fill text range depth extents.length).run valuation scope memory =
      (cell.leaves extents).foldlM (fun memory leaf =>
        (valuation.value (heldInLoops (memory leaf) depth extents.length (scope.held memory))
          text).map (Function.update memory leaf)) memory := by
  induction extents generalizing scope range cell depth memory with
  | nil => simp [fill, run, bound, Cell.leaves, heldInLoops]
  | cons extent extents ih =>
      simp only [List.length_cons, fill, run, bound, Cell.leaves, foldlM_flatMap, heldInLoops]
      congr 1
      funext memory index
      rw [ih (Function.update_self ..)]
      simp only [Scope.held_update]
      -- The variable of a loop stands for a single value only if no loop follows.
      cases extents with
      | nil => simp [Cell.leaves, Object.held?]
      | cons => simp [Object.held?]

end Run

end Statement

end ColumnCode

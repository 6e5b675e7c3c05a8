import ColumnCode.Proofs.RecordMembers
import ColumnCode.Proofs.ResetEffect
import Mathlib.Algebra.Group.Nat.Defs

/-!
# What a record starts with

The declaration of a record member gives its elements their first values.  A
literal in the braces is the value of the first element only, and all others
begin as zero.  The reset statement gives the value of the literal to each of
them, so a record starts as if it was reset just if there is one element or the
value is zero.
-/

namespace ColumnCode

open Statement (heldInLoops loopVariable)

namespace RecordMember

variable {Value : Type}

/-- The cells of the elements of a member. -/
def elements (record : RecordMember) : List Cell :=
  (Cell.mk record.name []).leaves record.type.extents

/-- The memory after the elements of a member are made.  A value in the braces
goes to the first element, and elements without a value are zero. -/
def start (record : RecordMember) (value? : Option Value) (zero : Value)
    (memory : Cell → Value) (cell : Cell) : Value :=
  if record.elements.head? = some cell then
    value?.getD zero
  else if cell ∈ record.elements then
    zero
  else
    memory cell

/-- Run a declaration.  There is no result where the literal in the braces has
no value. -/
def declare (record : RecordMember) (valuation : Valuation Value) (zero : Value) (scope : Scope)
    (memory : Cell → Value) : Option (Cell → Value) :=
  if record.initializer = "" then
    some (record.start none zero memory)
  else
    (valuation.value (scope.held memory) record.initializer).map fun value =>
      record.start (some value) zero memory

end RecordMember

theorem Cell.length_leaves (cell : Cell) (extents : List Nat) :
    (cell.leaves extents).length = extents.prod := by
  induction extents generalizing cell with
  | nil => rfl
  | cons extent extents ih => simp [leaves, List.length_flatMap, ih]

/-- No zero literal mentions a loop variable. -/
theorem Scalar.not_mentions_zero (scalar : Scalar) (depth : Nat) :
    ¬Mentions scalar.zero (loopVariable depth) := by
  rintro ⟨-, piece, member, text⟩
  have heads : ∀ piece ∈ scalar.zero.toList.splitOn '-',
      (piece.takeWhile (· != '.')).head? ≠ some 'p' := by
    cases scalar <;> decide
  exact heads piece member (by simp [text, loopVariable])

theorem Shape.HasExtents.prod_pos {shape : Shape} {extents : List Nat}
    (hasExtents : shape.HasExtents extents) : 0 < extents.prod := by
  unfold HasExtents at hasExtents
  generalize shape.dimensions = dimensions at hasExtents
  induction hasExtents with
  | nil => decide
  | cons hasExtent _ ih =>
      rw [List.prod_cons]
      exact Nat.mul_pos hasExtent.pos ih

namespace Branch

variable {Value : Type} {branch : Branch} {extents : List Nat} {valuation : Valuation Value}
  {declared : String → Option (List Nat)} {memory later : Cell → Value} {zero value : Value}

theorem elements_recordMember (branch : Branch) (extents : List Nat) :
    (branch.recordMember extents).elements = branch.elements extents := by
  simp [RecordMember.elements, recordMember, elements]

theorem start_recordMember (branch : Branch) (extents : List Nat) (value? : Option Value)
    (zero : Value) (memory : Cell → Value) :
    (branch.recordMember extents).start value? zero memory =
      fun cell => if (branch.elements extents).head? = some cell then value?.getD zero else
        if cell ∈ branch.elements extents then zero else memory cell := by
  funext cell
  rw [RecordMember.start, elements_recordMember]

/-- The declaration and the reset both have results, and each element has the
same value in them. -/
def StartsAsReset (branch : Branch) (extents : List Nat) (valuation : Valuation Value)
    (zero : Value) (declared : String → Option (List Nat)) (memory later : Cell → Value) : Prop :=
  ∃ started reset,
    (branch.recordMember extents).declare valuation zero (Scope.enclosing declared) memory =
        some started ∧
      branch.resetStatement.run valuation (Scope.enclosing declared) later = some reset ∧
      ∀ element ∈ branch.elements extents, started element = reset element

/-- The first element starts with what the reset value is worth, and the others
with zero. -/
theorem declare_recordMember (extents : List Nat)
    (zeroLiteral :
      valuation.value ((Scope.enclosing declared).held memory) branch.scalar.zero = some zero)
    (worth : valuation.value ((Scope.enclosing declared).held memory) branch.resetValue =
      some value) :
    (branch.recordMember extents).declare valuation zero (Scope.enclosing declared) memory =
      some fun cell => if (branch.elements extents).head? = some cell then value else
        if cell ∈ branch.elements extents then zero else memory cell := by
  have literal : (branch.recordMember extents).initializer = branch.initializer := rfl
  rw [RecordMember.declare, literal]
  unfold resetValue at worth
  split at worth
  next absent =>
    obtain rfl : zero = value := Option.some.inj (zeroLiteral.symm.trans worth)
    rw [if_pos absent, start_recordMember, Option.getD_none]
  next present =>
    rw [if_neg present, worth, Option.map_some, start_recordMember, Option.getD_some]

theorem startsAsReset_iff (declares : declared branch.name = some extents)
    (sameRank : extents.length = branch.shape.rank)
    (zeroLiteral :
      valuation.value ((Scope.enclosing declared).held memory) branch.scalar.zero = some zero)
    (worth : valuation.value ((Scope.enclosing declared).held memory) branch.resetValue =
      some value) :
    branch.StartsAsReset extents valuation zero declared memory later ↔
      ∀ element ∈ branch.elements extents,
        valuation.value (heldInLoops (later element) 0 branch.shape.rank
          ((Scope.enclosing declared).held later)) branch.resetValue =
            some (if (branch.elements extents).head? = some element then value else zero) := by
  have declared_eq := declare_recordMember extents zeroLiteral worth
  constructor
  · rintro ⟨started, reset, declares_started, runs, alike⟩ element member
    obtain rfl := Option.some.inj (declares_started.symm.trans declared_eq)
    have stored := ((run_resetStatement_eq_some_iff declares sameRank).mp runs).1 element member
    rw [stored, ← alike element member]
    simp only [if_pos member]
  · intro stored
    refine ⟨_, fun cell => if cell ∈ branch.elements extents then
      if (branch.elements extents).head? = some cell then value else zero else later cell,
      declared_eq, (run_resetStatement_eq_some_iff declares sameRank).mpr ⟨?_, ?_⟩, ?_⟩
    · intro element member
      rw [stored element member, if_pos member]
    · intro cell outside
      rw [if_neg outside]
    · intro element member
      simp only [if_pos member]

/-- All elements are alike exactly if there is one of them or the first has the
value of the others. -/
theorem forall_elements_alike_iff (branch : Branch) (positive : 0 < extents.prod) :
    (∀ element ∈ branch.elements extents,
        value = if (branch.elements extents).head? = some element then value else zero) ↔
      extents.prod = 1 ∨ value = zero := by
  have nodup := Cell.nodup_leaves ⟨branch.name, []⟩ extents
  have length := Cell.length_leaves ⟨branch.name, []⟩ extents
  rw [← length] at positive ⊢
  change List.Nodup (branch.elements extents) at nodup
  change _ ↔ (branch.elements extents).length = 1 ∨ _
  obtain ⟨first, others, elements_eq⟩ :=
    List.exists_cons_of_length_pos (l := branch.elements extents) positive
  rw [elements_eq] at nodup ⊢
  constructor
  · intro alike
    cases others with
    | nil => exact .inl rfl
    | cons next others =>
        have different : first ≠ next := fun same => (List.nodup_cons.mp nodup).1 (by simp [same])
        have nextAlike := alike next (by simp)
        rw [List.head?_cons, if_neg fun same => different (Option.some.inj same)] at nextAlike
        exact .inr nextAlike
  · rintro (single | rfl) element member
    · obtain rfl : others = [] := by simpa using single
      rw [List.mem_singleton.mp member, List.head?_cons, if_pos rfl]
    · rw [ite_self]

section Comparing

variable (wellFormed : branch.WellFormed) (declares : declared branch.name = some extents)
  (hasExtents : branch.shape.HasExtents extents)
  (zeroLiteral :
    valuation.value ((Scope.enclosing declared).held memory) branch.scalar.zero = some zero)

include wellFormed declares hasExtents zeroLiteral

/-- Where the reset value is worth the same in the declaration and inside the
loops, only a single element or a zero makes them agree. -/
theorem WellFormed.startsAsReset_iff_of_not_mentions
    (worth : valuation.value ((Scope.enclosing declared).held memory) branch.resetValue =
      some value)
    (worthLater : valuation.value ((Scope.enclosing declared).held later) branch.resetValue =
      some value)
    (noVariable : ∀ depth < branch.shape.rank, ¬Mentions branch.resetValue (loopVariable depth)) :
    branch.StartsAsReset extents valuation zero declared memory later ↔
      extents.prod = 1 ∨ value = zero := by
  rw [startsAsReset_iff declares hasExtents.length_eq zeroLiteral worth,
    ← forall_elements_alike_iff branch hasExtents.prod_pos]
  refine forall₂_congr fun element _ => ?_
  rw [value_heldInLoops_of_not_mentions valuation wellFormed.isRun_resetValue noVariable,
    worthLater, Option.some.injEq]

/-- Without an initializer a record starts as it is reset, if the zero is still
worth the same when it is. -/
theorem WellFormed.startsAsReset_of_absent (absent : branch.initializer = "")
    (zeroLater :
      valuation.value ((Scope.enclosing declared).held later) branch.scalar.zero = some zero) :
    branch.StartsAsReset extents valuation zero declared memory later := by
  have isZero : branch.resetValue = branch.scalar.zero := if_pos absent
  rw [← isZero] at zeroLater
  refine (wellFormed.startsAsReset_iff_of_not_mentions declares hasExtents zeroLiteral
    (isZero ▸ zeroLiteral) zeroLater fun depth _ => ?_).mpr (.inr rfl)
  rw [isZero]
  exact branch.scalar.not_mentions_zero depth

end Comparing

end Branch

namespace Target

theorem code_of_holdsValues {target : Target} (holdsValues : target.role.holdsValues = true)
    (branch : Branch) :
    target.code .declare branch = [target.declaration branch] ∧
      target.code .reset branch = [branch.resetStatement.render] := by
  rcases target with ⟨role, backing, vocabulary⟩
  cases role with
  | storage => cases holdsValues
  | cached => exact ⟨rfl, rfl⟩
  | entry => exact ⟨rfl, rfl⟩
  | element => cases holdsValues

/-- The lines that declare and reset a branch of a record are read in one way
each.  The declaration gives the first element what the reset value is worth and
the others zero, and the reset gives each what the value is worth inside its
loops.  If the loops do not change what it is worth, the two agree exactly if
there is a single element or the value is zero.  They agree without an
initializer.  The zero literal is asked to be worth zero only where the
declaration and the reset stand. -/
theorem record_starts_as_reset_iff {line : String} {branch : Branch}
    (accepted : (Branch.read line).value = .ok branch) {target : Target}
    (holdsValues : target.role.holdsValues = true) {extents : List Nat}
    (hasExtents : branch.shape.HasExtents extents) {Value : Type} {valuation : Valuation Value}
    {declared : String → Option (List Nat)} (declares : declared branch.name = some extents)
    {memory : Cell → Value} {zero value : Value}
    (zeroLiteral :
      valuation.value ((Scope.enclosing declared).held memory) branch.scalar.zero = some zero)
    (worth : valuation.value ((Scope.enclosing declared).held memory) branch.resetValue =
      some value) (later : Cell → Value) :
    (target.code .declare branch = [target.declaration branch] ∧
        ∀ record, RecordMember.Reads (target.declaration branch) record ↔
          record = branch.recordMember extents) ∧
      (target.code .reset branch = [branch.resetStatement.render] ∧
        ∀ statement, Statement.Reads branch.resetStatement.render statement ↔
          statement = branch.resetStatement) ∧
      (branch.recordMember extents).declare valuation zero (Scope.enclosing declared) memory =
        some (fun cell => if (branch.elements extents).head? = some cell then value else
          if cell ∈ branch.elements extents then zero else memory cell) ∧
      (branch.StartsAsReset extents valuation zero declared memory later ↔
        ∀ element ∈ branch.elements extents,
          valuation.value (heldInLoops (later element) 0 branch.shape.rank
            ((Scope.enclosing declared).held later)) branch.resetValue =
              some (if (branch.elements extents).head? = some element then value else zero)) ∧
      (valuation.value ((Scope.enclosing declared).held later) branch.resetValue = some value →
        (∀ depth < branch.shape.rank, ¬Mentions branch.resetValue (loopVariable depth)) →
        (branch.StartsAsReset extents valuation zero declared memory later ↔
          extents.prod = 1 ∨ value = zero)) ∧
      (branch.initializer = "" →
        valuation.value ((Scope.enclosing declared).held later) branch.scalar.zero = some zero →
        branch.StartsAsReset extents valuation zero declared memory later) := by
  have wellFormed := Branch.wellFormed_of_read accepted
  obtain ⟨declareCode, resetCode⟩ := code_of_holdsValues holdsValues branch
  refine ⟨⟨declareCode, reads_record_iff holdsValues wellFormed hasExtents⟩,
    ⟨resetCode, fun _ => wellFormed.isWritten_resetStatement.reads_render_iff⟩,
    Branch.declare_recordMember extents zeroLiteral worth,
    Branch.startsAsReset_iff declares hasExtents.length_eq zeroLiteral worth, ?_,
    wellFormed.startsAsReset_of_absent declares hasExtents zeroLiteral⟩
  exact wellFormed.startsAsReset_iff_of_not_mentions declares hasExtents zeroLiteral worth

/-- A member with a single truth value starts with its literal.  One with two of
them does not. -/
theorem record_starts_as_reset_iff_single :
    ∃ flag flags : Branch,
      (Branch.read "flag[1][1]/O/m = true // one").value = .ok flag ∧
      flag.shape.HasExtents [1, 1] ∧
      RecordMember.Reads "mutable std::array<std::array<Bool_t, 1>, 1> flag\x7btrue\x7d; // one"
        ⟨true, .array (.array (.single .bool) 1) 1, "flag", "true"⟩ ∧
      flag.StartsAsReset [1, 1] .truthWords false
        (fun name => if name = "flag" then some [1, 1] else none) (fun _ => true)
        (fun _ => false) ∧
      (Branch.read "flags[2]/O = true").value = .ok flags ∧ flags.shape.HasExtents [2] ∧
      ¬flags.StartsAsReset [2] .truthWords false
        (fun name => if name = "flags" then some [2] else none) (fun _ => true)
        (fun _ => false) := by
  have accepted : (Branch.read "flag[1][1]/O/m = true // one").value =
      .ok ⟨"flag", .bool, .ofTokens ["1", "1"], ⟨false, true⟩, "true", " // one"⟩ := by
    decide +kernel
  have hasExtents : (Shape.ofTokens ["1", "1"]).HasExtents [1, 1] :=
    have isOne := Dimension.hasExtent_ofToken_iff.mpr (show 0 < 1 ∧ _ ∧ "1" = _ by decide)
    .cons isOne (.cons isOne .nil)
  have acceptedTwo : (Branch.read "flags[2]/O = true").value =
      .ok ⟨"flags", .bool, .ofTokens ["2"], ⟨false, false⟩, "true", ""⟩ := by
    decide +kernel
  have hasTwo : (Shape.ofTokens ["2"]).HasExtents [2] :=
    .cons (Dimension.hasExtent_ofToken_iff.mpr (by decide)) .nil
  obtain ⟨declaration, -, -, -, starts, -⟩ := @record_starts_as_reset_iff _ _ accepted
    { role := .cached } rfl _ hasExtents Bool .truthWords
    (fun name => if name = "flag" then some [1, 1] else none) rfl (fun _ => true) false true
    rfl rfl (fun _ => false)
  obtain ⟨-, -, -, -, startsTwo, -⟩ := @record_starts_as_reset_iff _ _ acceptedTwo
    { role := .entry } rfl _ hasTwo Bool .truthWords
    (fun name => if name = "flags" then some [2] else none) rfl (fun _ => true) false true
    rfl rfl (fun _ => false)
  refine ⟨_, _, accepted, hasExtents, (declaration.2 _).mpr rfl,
    (starts rfl (by decide +kernel)).mpr (.inl rfl), acceptedTwo, hasTwo, fun startsAlike => ?_⟩
  exact absurd ((startsTwo rfl (by decide +kernel)).mp startsAlike) (by decide)

/-- A member with two elements: its literal is the value of the first one only,
and the reset gives it to both. -/
theorem record_starts_unlike_reset :
    ∃ branch : Branch, (Branch.read "x[2]/I = 5").value = .ok branch ∧
      branch.shape.HasExtents [2] ∧
      ({ role := .entry } : Target).declaration branch = "std::array<Int_t, 2> x\x7b5\x7d;" ∧
      branch.resetStatement.render = "for (auto& p0 : x) p0 = 5;" ∧
      branch.elements [2] = [⟨"x", [0]⟩, ⟨"x", [1]⟩] ∧
      ((branch.recordMember [2]).declare
          (.ofConstants fun text => if text = "5" then some (5 : Int) else some 0) 0
          (Scope.enclosing fun name => if name = "x" then some [2] else none) fun _ => 8).map
            (fun started => [started ⟨"x", [0]⟩, started ⟨"x", [1]⟩]) = some [5, 0] ∧
      (branch.resetStatement.run
          (.ofConstants fun text => if text = "5" then some (5 : Int) else some 0)
          (Scope.enclosing fun name => if name = "x" then some [2] else none) fun _ => 9).map
            (fun reset => [reset ⟨"x", [0]⟩, reset ⟨"x", [1]⟩]) = some [5, 5] :=
  ⟨⟨"x", .int32, .ofTokens ["2"], ⟨false, false⟩, "5", ""⟩, by decide +kernel,
    .cons (Dimension.hasExtent_ofToken_iff.mpr (by decide)) .nil, by decide +kernel,
    by decide +kernel, by decide,
    by decide +kernel, by decide +kernel⟩

end Target

end ColumnCode

import ColumnCode.Proofs.BranchDefinition
import ColumnCode.Proofs.StatementExecution

/-!
# What a reset does

The statement that resets a column is run where the column is declared.  It
gives each element what the reset value is worth at the assignment, and it
changes nothing else.  The assignment stands inside the loops, so a reset value
that mentions one of their variables is worth something else there than around
the loops: a value that is itself the innermost variable assigns each element to
itself.
-/

namespace ColumnCode

open Definition (IsRun inLiteral)
open Statement (heldInLoops heldInLoops_of_ne heldInLoops_loopVariable loopVariable)

theorem Scalar.isRun_zero (scalar : Scalar) : IsRun inLiteral scalar.zero.toList := by
  cases scalar <;> exact ⟨by decide, List.all_eq_true.mp (by decide)⟩

namespace Branch

theorem WellFormed.isRun_resetValue {branch : Branch} (wellFormed : branch.WellFormed) :
    IsRun inLiteral branch.resetValue.toList := by
  unfold resetValue
  split
  next => exact branch.scalar.isRun_zero
  next present => exact wellFormed.initializer.resolve_left present

theorem WellFormed.isWritten_resetStatement {branch : Branch} (wellFormed : branch.WellFormed) :
    branch.resetStatement.IsWritten :=
  Statement.isWritten_fill wellFormed.isRun_resetValue wellFormed.isName 0 branch.shape.rank

/-- The cells of all elements of a branch whose dimensions have the extents. -/
def elements (branch : Branch) (extents : List Nat) : List Cell :=
  (Cell.mk branch.name []).leaves extents

section Run

variable {Value : Type} {branch : Branch} {extents : List Nat} {valuation : Valuation Value}
  {declared : String → Option (List Nat)} {memory after : Cell → Value}

/-- Elements other than the one that is assigned to are no single values of the
enclosing scope. -/
theorem held_eq_of_outside_elements (declares : declared branch.name = some extents)
    {between : Cell → Value}
    (outside : ∀ cell ∉ branch.elements extents, between cell = memory cell) {element : Cell}
    (member : element ∈ branch.elements extents) (untouched : between element = memory element) :
    (Scope.enclosing declared).held between = (Scope.enclosing declared).held memory := by
  funext name
  cases found : declared name with
  | none => simp [Scope.held, Scope.enclosing, found]
  | some found_extents =>
      cases found_extents with
      | cons extent others => simp [Scope.held, Scope.enclosing, found, Object.held?]
      | nil =>
          have same : between ⟨name, []⟩ = memory ⟨name, []⟩ := by
            by_cases isBranch : name = branch.name
            · obtain rfl : extents = [] := by simpa [← isBranch, found, eq_comm] using declares
              obtain rfl : element = ⟨branch.name, []⟩ := by
                simpa [elements, Cell.leaves] using member
              rw [isBranch, untouched]
            · exact outside _ fun inside => isBranch (Cell.root_of_mem_leaves inside)
          simp [Scope.held, Scope.enclosing, found, Object.held?, same]

/-- A reset gives each element what the reset value is worth inside the loops. -/
theorem run_resetStatement_eq_some_iff (declares : declared branch.name = some extents)
    (sameRank : extents.length = branch.shape.rank) :
    branch.resetStatement.run valuation (Scope.enclosing declared) memory = some after ↔
      (∀ element ∈ branch.elements extents,
        valuation.value (heldInLoops (memory element) 0 branch.shape.rank
          ((Scope.enclosing declared).held memory)) branch.resetValue = some (after element)) ∧
      ∀ cell ∉ branch.elements extents, after cell = memory cell := by
  have bound : Scope.enclosing declared branch.name = some ⟨⟨branch.name, []⟩, extents⟩ := by
    simp [Scope.enclosing, declares]
  rw [resetStatement, ← sameRank, Statement.run_fill valuation branch.resetValue bound]
  refine foldlM_update_eq_some_iff (Cell.nodup_leaves _ extents) ?_
  intro between outside element member untouched
  rw [held_eq_of_outside_elements declares outside member untouched, untouched]

/-- A reset value that mentions no loop variable is worth the same inside the
loops as around them. -/
theorem value_heldInLoops_of_not_mentions (valuation : Valuation Value) {text : String}
    (isLiteral : IsRun inLiteral text.toList) {rank : Nat}
    (noVariable : ∀ depth < rank, ¬Mentions text (loopVariable depth)) (value : Value)
    (held : String → Option Value) :
    valuation.value (heldInLoops value 0 rank held) text = valuation.value held text := by
  refine valuation.value_congr text isLiteral _ _ fun name mentions => ?_
  refine heldInLoops_of_ne fun layer _ below => ?_
  rintro rfl
  exact noVariable layer (by omega) mentions

theorem value_heldInLoops_loopVariable (valuation : Valuation Value) {depth rank : Nat}
    (isLoop : depth < rank) (value : Value) (held : String → Option Value) :
    valuation.value (heldInLoops value 0 rank held) (loopVariable depth) =
      if depth + 1 = rank then some value else none := by
  rw [valuation.value_name _ _ (Statement.isVariableName_loopVariable depth),
    heldInLoops_loopVariable (Nat.zero_le depth) (by omega), Nat.zero_add]

/-- All elements get what the reset value is worth around the loops, if it means
the same inside them. -/
theorem WellFormed.run_resetStatement_of_not_mentions (wellFormed : branch.WellFormed)
    (declares : declared branch.name = some extents)
    (sameRank : extents.length = branch.shape.rank) {value : Value}
    (worth : valuation.value ((Scope.enclosing declared).held memory) branch.resetValue =
      some value)
    (noVariable : ∀ depth < branch.shape.rank, ¬Mentions branch.resetValue (loopVariable depth)) :
    branch.resetStatement.run valuation (Scope.enclosing declared) memory =
      some fun cell => if cell ∈ branch.elements extents then value else memory cell := by
  refine (run_resetStatement_eq_some_iff declares sameRank).mpr ⟨?_, ?_⟩
  · intro element member
    rw [value_heldInLoops_of_not_mentions valuation wellFormed.isRun_resetValue noVariable,
      worth, if_pos member]
  · intro cell outside
    rw [if_neg outside]

/-- A reset value that is the innermost loop variable assigns each element to
itself. -/
theorem run_resetStatement_of_innermost (declares : declared branch.name = some extents)
    (sameRank : extents.length = branch.shape.rank) {depth : Nat}
    (isVariable : branch.resetValue = loopVariable depth)
    (innermost : depth + 1 = branch.shape.rank) :
    branch.resetStatement.run valuation (Scope.enclosing declared) memory = some memory := by
  refine (run_resetStatement_eq_some_iff declares sameRank).mpr ⟨?_, fun _ _ => rfl⟩
  intro element _
  rw [isVariable, value_heldInLoops_loopVariable valuation (by omega), if_pos innermost]

/-- A reset value that is any loop variable changes no element: an outer one is
an array, which cannot be assigned to a single value. -/
theorem eq_of_run_resetStatement_of_loopVariable (declares : declared branch.name = some extents)
    (sameRank : extents.length = branch.shape.rank) {depth : Nat}
    (isVariable : branch.resetValue = loopVariable depth) (isLoop : depth < branch.shape.rank)
    (ran : branch.resetStatement.run valuation (Scope.enclosing declared) memory = some after) :
    after = memory := by
  obtain ⟨stored, outside⟩ := (run_resetStatement_eq_some_iff declares sameRank).mp ran
  funext cell
  by_cases member : cell ∈ branch.elements extents
  · have isStored := stored cell member
    rw [isVariable, value_heldInLoops_loopVariable valuation isLoop] at isStored
    split at isStored
    · exact (Option.some.inj isStored).symm
    · exact absurd isStored (Option.some_ne_none _).symm
  · exact outside cell member

/-- The reset statement is all that its text can be read as.  Run where the
branch is declared, it gives each element what the reset value is worth with the
loop variables in scope, and it changes nothing else.  So it gives them all what
the reset value is worth around the loops, if that mentions no loop variable.
If it is one, no element changes. -/
theorem reset_effect {line : String} (accepted : (read line).value = .ok branch)
    (valuation : Valuation Value) (declares : declared branch.name = some extents)
    (sameRank : extents.length = branch.shape.rank) (memory : Cell → Value) :
    (∀ statement, Statement.Reads branch.resetStatement.render statement ↔
        statement = branch.resetStatement) ∧
      (∀ after, branch.resetStatement.run valuation (Scope.enclosing declared) memory =
          some after ↔
        (∀ element ∈ branch.elements extents,
          valuation.value (heldInLoops (memory element) 0 branch.shape.rank
            ((Scope.enclosing declared).held memory)) branch.resetValue = some (after element)) ∧
        ∀ cell ∉ branch.elements extents, after cell = memory cell) ∧
      (∀ value,
        valuation.value ((Scope.enclosing declared).held memory) branch.resetValue = some value →
        (∀ depth < branch.shape.rank, ¬Mentions branch.resetValue (loopVariable depth)) →
        branch.resetStatement.run valuation (Scope.enclosing declared) memory =
          some fun cell => if cell ∈ branch.elements extents then value else memory cell) ∧
      ∀ depth < branch.shape.rank, branch.resetValue = loopVariable depth →
        (depth + 1 = branch.shape.rank →
          branch.resetStatement.run valuation (Scope.enclosing declared) memory = some memory) ∧
        ∀ after, branch.resetStatement.run valuation (Scope.enclosing declared) memory =
          some after → after = memory := by
  have wellFormed := wellFormed_of_read accepted
  refine ⟨fun _ => wellFormed.isWritten_resetStatement.reads_render_iff,
    fun _ => run_resetStatement_eq_some_iff declares sameRank, ?_, ?_⟩
  · intro value worth noVariable
    exact wellFormed.run_resetStatement_of_not_mentions declares sameRank worth noVariable
  · intro depth isLoop isVariable
    constructor
    · intro innermost
      exact run_resetStatement_of_innermost declares sameRank isVariable innermost
    · intro after ran
      exact eq_of_run_resetStatement_of_loopVariable declares sameRank isVariable isLoop ran

end Run

/-- A column with the name of a loop variable, reset to a variable that no loop
hides. -/
theorem reset_effect_enclosing :
    ∃ branch : Branch, (read "p1[2][2]/I = p2").value = .ok branch ∧
      branch.resetStatement.render = "for (auto& p0 : p1) for (auto& p1 : p0) p1 = p2;" ∧
      branch.elements [2, 2] =
        [⟨"p1", [0, 0]⟩, ⟨"p1", [0, 1]⟩, ⟨"p1", [1, 0]⟩, ⟨"p1", [1, 1]⟩] ∧
      branch.resetStatement.run (.ofConstants fun _ => none)
          (Scope.enclosing fun name => if name = "p1" then some [2, 2] else some [])
          (fun cell => if cell.root = "p2" then (7 : Int) else 0) =
        some fun cell =>
          if cell ∈ branch.elements [2, 2] then 7 else if cell.root = "p2" then 7 else 0 := by
  have accepted : (read "p1[2][2]/I = p2").value =
      .ok ⟨"p1", .int32, .ofTokens ["2", "2"], ⟨false, false⟩, "p2", ""⟩ := by
    decide +kernel
  obtain ⟨-, -, resets, -⟩ := @reset_effect Int _ [2, 2]
    (fun name => if name = "p1" then some [2, 2] else some []) _ accepted
    (.ofConstants fun _ => none) rfl rfl (fun cell => if cell.root = "p2" then 7 else 0)
  exact ⟨_, accepted, by decide +kernel, by decide, resets 7 rfl (by decide)⟩

/-- A column reset to a variable that its loop hides: the elements should become
seven, and each is assigned to itself. -/
theorem reset_effect_hidden :
    ∃ branch : Branch, (read "x[2]/I = p0").value = .ok branch ∧ branch.resetValue = "p0" ∧
      branch.resetStatement.render = "for (auto& p0 : x) p0 = p0;" ∧
      branch.elements [2] = [⟨"x", [0]⟩, ⟨"x", [1]⟩] ∧
      ∀ valuation : Valuation Int,
        valuation.value ((Scope.enclosing fun name => if name = "x" then some [2] else some []).held
            fun cell => if cell.root = "p0" then 7 else 0) "p0" = some 7 ∧
          branch.resetStatement.run valuation
              (Scope.enclosing fun name => if name = "x" then some [2] else some [])
              (fun cell => if cell.root = "p0" then 7 else 0) =
            some fun cell => if cell.root = "p0" then 7 else 0 := by
  refine ⟨⟨"x", .int32, .ofTokens ["2"], ⟨false, false⟩, "p0", ""⟩, by decide +kernel, rfl,
    by decide +kernel, by decide, fun valuation => ⟨?_, ?_⟩⟩
  · exact valuation.value_name _ "p0" (by decide)
  · exact @run_resetStatement_of_innermost _ _ [2] _ _ _ rfl rfl 0 rfl rfl

end Branch

end ColumnCode

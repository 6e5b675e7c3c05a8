import ColumnCode.Proofs.Expression
import ColumnCode.Statement

/-!
# Reading statements back

A statement is written with names where it binds or assigns, and with a literal
where it takes a value.  The characters that stand between these parts belong
to neither, so the text of a statement is the text of no other one.
-/

namespace ColumnCode

open Definition (IsName IsRun stops_cons continuesName inLiteral)

/-- A name ends before a character that does not continue it. -/
theorem Definition.IsName.append_cons_injective {first second : String} {firstEnd secondEnd : Char}
    {firstRest secondRest : List Char} (isFirst : IsName first.toList)
    (firstEnds : continuesName firstEnd = false) (isSecond : IsName second.toList)
    (secondEnds : continuesName secondEnd = false)
    (same : first.toList ++ firstEnd :: firstRest = second.toList ++ secondEnd :: secondRest) :
    first = second ∧ firstEnd = secondEnd ∧ firstRest = secondRest := by
  obtain ⟨names, rests⟩ := Definition.run_injective isFirst.inside (stops_cons.mpr firstEnds)
    isSecond.inside (stops_cons.mpr secondEnds) same
  exact ⟨String.toList_inj.mp names, List.cons.inj rests⟩

namespace Statement

/-- What is bound, run through or assigned to has a name, and what is assigned
is a literal. -/
def IsWritten : Statement → Prop
  | assign target value => IsName target.toList ∧ IsRun inLiteral value.toList
  | forEach element range body =>
      IsName element.toList ∧ IsName range.toList ∧ body.IsWritten

/-- The text is the text of the statement. -/
def Reads (text : String) (statement : Statement) : Prop :=
  statement.IsWritten ∧ statement.render = text

theorem toList_render_assign (target value : String) :
    (assign target value).render.toList =
      target.toList ++ ' ' :: '=' :: ' ' :: (value.toList ++ [';']) := by
  simp [render]

theorem toList_render_forEach (element range : String) (body : Statement) :
    (forEach element range body).render.toList =
      "for".toList ++ ' ' :: '(' :: ("auto& ".toList ++ (element.toList ++
        ' ' :: ':' :: ' ' :: (range.toList ++ ')' :: ' ' :: body.render.toList))) := by
  simp [render]

theorem render_assign_ne_render_forEach {target : String} (isTarget : IsName target.toList)
    (value element range : String) (body : Statement) :
    (assign target value).render ≠ (forEach element range body).render := by
  intro same
  have texts := congrArg String.toList same
  rw [toList_render_assign, toList_render_forEach] at texts
  have isFor : IsName "for".toList := by decide
  obtain ⟨-, -, rests⟩ := isTarget.append_cons_injective (by decide) isFor (by decide) texts
  simp at rests

/-- Different statements are written differently. -/
theorem render_injective {first second : Statement} (isFirst : first.IsWritten)
    (isSecond : second.IsWritten) (same : first.render = second.render) : first = second := by
  induction first generalizing second with
  | assign target value =>
      cases second with
      | assign otherTarget otherValue =>
          have texts := congrArg String.toList same
          rw [toList_render_assign, toList_render_assign] at texts
          obtain ⟨rfl, -, rests⟩ :=
            isFirst.1.append_cons_injective (by decide) isSecond.1 (by decide) texts
          obtain rfl : value = otherValue := String.toList_inj.mp (by simpa using rests)
          rfl
      | forEach element range body =>
          exact absurd same (render_assign_ne_render_forEach isFirst.1 _ _ _ _)
  | forEach element range body ih =>
      cases second with
      | assign target value =>
          exact absurd same.symm (render_assign_ne_render_forEach isSecond.1 _ _ _ _)
      | forEach otherElement otherRange otherBody =>
          obtain ⟨isElement, isRange, isBody⟩ := isFirst
          obtain ⟨isOtherElement, isOtherRange, isOtherBody⟩ := isSecond
          have texts := congrArg String.toList same
          rw [toList_render_forEach, toList_render_forEach] at texts
          simp only [List.append_cancel_left_eq, List.cons.injEq, true_and] at texts
          obtain ⟨rfl, -, ranges⟩ :=
            isElement.append_cons_injective (by decide) isOtherElement (by decide) texts
          simp only [List.cons.injEq, true_and] at ranges
          obtain ⟨rfl, -, bodies⟩ :=
            isRange.append_cons_injective (by decide) isOtherRange (by decide) ranges
          rw [ih isBody isOtherBody (String.toList_inj.mp (List.cons.inj bodies).2)]

/-- A written statement is all that its text can be read as. -/
theorem IsWritten.reads_render_iff {statement other : Statement} (isWritten : statement.IsWritten) :
    Reads statement.render other ↔ other = statement := by
  constructor
  · rintro ⟨isOther, same⟩
    exact render_injective isOther isWritten same
  · rintro rfl
    exact ⟨isWritten, rfl⟩

theorem isName_loopVariable (depth : Nat) : IsName (loopVariable depth).toList := by
  have characters : (loopVariable depth).toList = 'p' :: depth.repr.toList := by
    simp [loopVariable]
  rw [characters]
  refine ⟨by decide, fun character member => ?_⟩
  simp [continuesName, Char.isAlphanum, Lexeme.isDigit_of_mem_repr member]

theorem loopVariable_injective : Function.Injective loopVariable := by
  intro first second same
  refine Lexeme.repr_injective ?_
  simpa [loopVariable] using congrArg String.toList same

theorem isWritten_fill {value : String} (isLiteral : IsRun inLiteral value.toList)
    {range : String} (isName : IsName range.toList) (depth rank : Nat) :
    (fill value range depth rank).IsWritten := by
  induction rank generalizing range depth with
  | zero => exact ⟨isName, isLiteral⟩
  | succ rank ih =>
      have isElement := isName_loopVariable depth
      exact ⟨isElement, isName, ih isElement (depth + 1)⟩

end Statement

end ColumnCode

import ColumnCode.Branch

/-!
# Reset statements as one row of loops

A reset statement is built from the inside out, and it is written from the
outside in: one loop head for each dimension, and then one assignment.
-/

namespace ColumnCode

namespace Statement

/-- What the loop at a depth runs over: the column itself outside of all loops,
and otherwise the variable of the loop around it. -/
def rangeAt (name : String) : Nat → String
  | 0 => name
  | depth + 1 => loopVariable depth

/-- The head of the loop at a depth. -/
def loopHead (name : String) (depth : Nat) : String :=
  "for (auto& " ++ loopVariable depth ++ " : " ++ rangeAt name depth ++ ") "

/-- The heads of all loops from the outermost on, and the assignment to what
the innermost runs through. -/
def loopRow (name : String) (rank : Nat) (value : String) : String :=
  String.join ((List.range rank).map (loopHead name)) ++ rangeAt name rank ++ " = " ++ value ++ ";"

theorem render_fill_rangeAt (name value : String) (depth rank : Nat) :
    (fill value (rangeAt name depth) depth rank).render =
      String.join ((List.range' depth rank).map (loopHead name)) ++
        (rangeAt name (depth + rank) ++ " = " ++ value ++ ";") := by
  induction rank generalizing depth with
  | zero => simp [fill, render]
  | succ rank ih =>
      have inner := ih (depth + 1)
      rw [fill, render, show loopVariable depth = rangeAt name (depth + 1) from rfl, inner,
        List.range'_succ, List.map_cons, String.join_cons, Nat.add_right_comm, Nat.add_assoc]
      simp [loopHead, rangeAt, String.append_assoc]

theorem render_fill (name value : String) (rank : Nat) :
    (fill value name 0 rank).render = loopRow name rank value := by
  have row := render_fill_rangeAt name value 0 rank
  simpa [loopRow, rangeAt, List.range_eq_range', String.append_assoc] using row

end Statement

theorem Branch.render_resetStatement (branch : Branch) :
    branch.resetStatement.render =
      Statement.loopRow branch.name branch.shape.rank branch.resetValue :=
  Statement.render_fill branch.name branch.resetValue branch.shape.rank

end ColumnCode

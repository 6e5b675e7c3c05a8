/-!
# Reset statements

The statement that resets a column is a nest of loops over references around
one assignment.  It is kept as a tree, so that what it does can be said apart
from how it is written.
-/

namespace ColumnCode

/-- A nest of loops by reference around one assignment. -/
inductive Statement where
  | assign (target value : String)
  | forEach (element range : String) (body : Statement)
  deriving DecidableEq, Repr

namespace Statement

def render : Statement → String
  | assign target value => target ++ " = " ++ value ++ ";"
  | forEach element range body =>
      "for (auto& " ++ element ++ " : " ++ range ++ ") " ++ body.render

def loopVariable (depth : Nat) : String :=
  "p" ++ toString depth

/-- Assign a value to every element of a nested range with `rank` layers.  The
loop variables are numbered from `depth` on. -/
def fill (value : String) (range : String) (depth : Nat) : Nat → Statement
  | 0 => assign range value
  | rank + 1 =>
      forEach (loopVariable depth) range (fill value (loopVariable depth) (depth + 1) rank)

end Statement

end ColumnCode

import ColumnCode.Text.Blank

/-!
# Rejected definitions

A line that is not a definition is rejected for one of two reasons: it does
not follow the grammar, or it follows the grammar and names no scalar type.
-/

namespace ColumnCode

/-- Why a line is not the definition of a column. -/
inductive Reason where
  | grammar
  | unknownType (code : String)
  deriving DecidableEq, Repr

def Reason.text : Reason → String
  | grammar => "does not match the branch grammar"
  | unknownType code => "unknown type code '" ++ code ++ "'"

/-- A rejected line, without the blanks at its end, and the reason. -/
structure Rejection where
  line : String
  reason : Reason
  deriving DecidableEq, Repr

namespace Rejection

def ofLine (line : String) (reason : Reason) : Rejection :=
  ⟨Text.trimEnd line, reason⟩

def text (rejection : Rejection) : String :=
  "'" ++ rejection.line ++ "' " ++ rejection.reason.text

end Rejection

end ColumnCode

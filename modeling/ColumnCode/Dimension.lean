/-!
# Dimensions

A dimension of an array column is written as a token.  A token of decimal
digits whose value fits a 64-bit word is a literal, and any other token is a
symbol that the generated code leaves to its compiler.  The spelling of the
token is kept in both cases.
-/

namespace ColumnCode

/-- The extent of an array column in one direction. -/
inductive Dimension where
  | literal (spelling : String) (value : UInt64)
  | symbol (spelling : String)
  deriving DecidableEq, Repr

namespace Dimension

/-- The word that results from writing one more decimal digit, if it is still
a 64-bit word. -/
def appendDigit? (word : UInt64) (digit : Char) : Option UInt64 :=
  let value := word.toNat * 10 + (digit.toNat - '0'.toNat)
  if value < UInt64.size then some (UInt64.ofNat value) else none

/-- The 64-bit word that a non-empty sequence of decimal digits denotes, if
there is one.  Leading zeros are allowed. -/
def wordOfDigits? (digits : List Char) : Option UInt64 :=
  if !digits.isEmpty && digits.all Char.isDigit then
    digits.foldlM appendDigit? 0
  else
    none

def ofToken (token : String) : Dimension :=
  match wordOfDigits? token.toList with
  | some value => literal token value
  | none => symbol token

def spelling : Dimension → String
  | literal spelling _ => spelling
  | symbol spelling => spelling

@[simp]
theorem spelling_ofToken (token : String) : (ofToken token).spelling = token := by
  unfold ofToken
  split <;> rfl

end Dimension

end ColumnCode

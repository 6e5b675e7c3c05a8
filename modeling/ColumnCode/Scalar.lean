/-!
# Scalar types

A column holds values of one scalar type.  A definition names the type by a
single letter, and generated code names it by the type name of the storage
library.
-/

namespace ColumnCode

/-- The type of one stored value. -/
inductive Scalar where
  | text
  | int8
  | uint8
  | int16
  | uint16
  | int32
  | uint32
  | int64
  | uint64
  | float32
  | float64
  | bool
  deriving DecidableEq, Repr

namespace Scalar

/-- The letter that stands for the type in definitions and in booking calls.
Where a type has a signed and an unsigned form, the capital letter is signed. -/
def letter : Scalar → Char
  | text => 'C'
  | int8 => 'B'
  | uint8 => 'b'
  | int16 => 'S'
  | uint16 => 's'
  | int32 => 'I'
  | uint32 => 'i'
  | int64 => 'L'
  | uint64 => 'l'
  | float32 => 'F'
  | float64 => 'D'
  | bool => 'O'

def typeName : Scalar → String
  | text => "Text_t const*"
  | int8 => "Char_t"
  | uint8 => "UChar_t"
  | int16 => "Short_t"
  | uint16 => "UShort_t"
  | int32 => "Int_t"
  | uint32 => "UInt_t"
  | int64 => "Long64_t"
  | uint64 => "ULong64_t"
  | float32 => "Float_t"
  | float64 => "Double_t"
  | bool => "Bool_t"

def ofLetter? : Char → Option Scalar
  | 'C' => some text
  | 'B' => some int8
  | 'b' => some uint8
  | 'S' => some int16
  | 's' => some uint16
  | 'I' => some int32
  | 'i' => some uint32
  | 'L' => some int64
  | 'l' => some uint64
  | 'F' => some float32
  | 'D' => some float64
  | 'O' => some bool
  | _ => none

/-- The scalar type that a code stands for.  A code is exactly one letter. -/
def ofCode? (code : String) : Option Scalar :=
  match code.toList with
  | [letter] => ofLetter? letter
  | _ => none

def isFloating : Scalar → Bool
  | float32 | float64 => true
  | _ => false

/-- The literal that a column without an initializer is reset to. -/
def zero : Scalar → String
  | bool => "false"
  | float32 | float64 => "0."
  | _ => "0"

/-- The integer type a value is printed as, where printing the value itself
would show a character. -/
def printedAs? : Scalar → Option Scalar
  | int8 => some int32
  | uint8 => some uint32
  | _ => none

@[simp]
theorem ofLetter?_letter (scalar : Scalar) : ofLetter? scalar.letter = some scalar := by
  cases scalar <;> rfl

theorem ofLetter?_eq_some_iff {letter : Char} {scalar : Scalar} :
    ofLetter? letter = some scalar ↔ letter = scalar.letter := by
  constructor
  · intro found
    unfold ofLetter? at found
    split at found <;> cases found <;> rfl
  · rintro rfl
    exact ofLetter?_letter scalar

theorem ofCode?_eq_some_iff {code : String} {scalar : Scalar} :
    ofCode? code = some scalar ↔ code = String.singleton scalar.letter := by
  rw [← String.toList_inj, String.toList_singleton]
  unfold ofCode?
  split
  next letter letters => simp [ofLetter?_eq_some_iff, letters]
  next notLetter =>
    refine iff_of_false (by simp) fun letters => ?_
    exact notLetter scalar.letter letters

end Scalar

end ColumnCode

/-!
# Blank characters

Definition lines are laid out with blanks, and a blank is any character with
the Unicode property White_Space.  This file holds that property and the two
ways of trimming by it.
-/

namespace ColumnCode

namespace Text

/-- The twenty-five characters with the Unicode property White_Space. -/
def isBlank (character : Char) : Bool :=
  let code := character.toNat
  (0x09 ≤ code && code ≤ 0x0D) || code == 0x20 || code == 0x85 || code == 0xA0 ||
    code == 0x1680 || (0x2000 ≤ code && code ≤ 0x200A) || code == 0x2028 ||
    code == 0x2029 || code == 0x202F || code == 0x205F || code == 0x3000

/-- The characters left after dropping the blanks at the end. -/
def dropBlanksEnd (characters : List Char) : List Char :=
  (characters.reverse.dropWhile isBlank).reverse

/-- The characters left after dropping the blanks at both ends. -/
def dropBlanks (characters : List Char) : List Char :=
  dropBlanksEnd (characters.dropWhile isBlank)

def trimEnd (text : String) : String :=
  String.ofList (dropBlanksEnd text.toList)

def trim (text : String) : String :=
  String.ofList (dropBlanks text.toList)

@[simp]
theorem toList_trim (text : String) : (trim text).toList = dropBlanks text.toList := by
  simp [trim]

@[simp]
theorem toList_trimEnd (text : String) :
    (trimEnd text).toList = dropBlanksEnd text.toList := by
  simp [trimEnd]

end Text

end ColumnCode

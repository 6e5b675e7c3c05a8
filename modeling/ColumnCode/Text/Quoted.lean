import ColumnCode.Text.Graphic

/-!
# Quoted texts

Reports and logs show some texts between double quotes.  Inside them the quote
and the backslash are escaped, the four common control characters have letters
of their own, and every other character without a graphic form of its own is
written by its number.
-/

namespace ColumnCode

namespace Text

def hexadecimal (number : Nat) : String :=
  String.ofList (Nat.toDigits 16 number)

def quoteCharacter (character : Char) : String :=
  match character with
  | '\x00' => "\\0"
  | '\t' => "\\t"
  | '\r' => "\\r"
  | '\n' => "\\n"
  | '"' => "\\\""
  | '\\' => "\\\\"
  | _ =>
      if isGraphic character then
        String.singleton character
      else
        "\\u\x7b" ++ hexadecimal character.toNat ++ "\x7d"

/-- A text between double quotes. -/
def quote (text : String) : String :=
  "\"" ++ String.join (text.toList.map quoteCharacter) ++ "\""

end Text

end ColumnCode

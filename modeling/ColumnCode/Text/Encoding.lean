/-!
# Bytes and texts

Files hold bytes, and a text in a file is UTF-8.
-/

namespace ColumnCode

namespace Text

/-- The text that the bytes encode, if they are well-formed UTF-8. -/
def decode? (bytes : List UInt8) : Option String :=
  String.fromUTF8? ⟨bytes.toArray⟩

/-- The UTF-8 bytes of a text. -/
def encode (text : String) : List UInt8 :=
  text.toUTF8.data.toList

@[simp]
theorem decode?_encode (text : String) : decode? (encode text) = some text := by
  simp only [decode?, encode, String.toUTF8_eq_toByteArray, Array.toArray_toList]
  exact dif_pos text.isValidUTF8

end Text

end ColumnCode

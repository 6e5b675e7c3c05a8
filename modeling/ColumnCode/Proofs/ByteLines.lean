import ColumnCode.Proofs.Lines
import ColumnCode.Text.Encoding

/-!
# Lines of bytes

A file is cut into lines before any of it is known to be text.  UTF-8 uses the
byte of the newline for nothing else, so the lines of bytes of an encoded text
are its encoded lines.
-/

namespace ColumnCode

namespace Text

/-- A line with its newline at the end and nowhere else. -/
def IsEnded {symbol : Type} (newline : symbol) (line : List symbol) : Prop :=
  ∃ body, newline ∉ body ∧ line = body ++ [newline]

theorem IsEnded.cons {symbol : Type} {newline : symbol} {line : List symbol}
    (ended : IsEnded newline line) {head : symbol} (different : head ≠ newline) :
    IsEnded newline (head :: line) := by
  obtain ⟨body, unbroken, rfl⟩ := ended
  refine ⟨head :: body, ?_, rfl⟩
  simp [unbroken, different.symm]

section Cutting

variable {symbol : Type} [DecidableEq symbol] {newline : symbol}

/-- A sequence that begins with whole lines is cut after each of them. -/
theorem cutLines_flatten_append {lines : List (List symbol)}
    (ended : ∀ line ∈ lines, IsEnded newline line) (rest : List symbol) :
    cutLines newline (lines.flatten ++ rest) = lines ++ cutLines newline rest := by
  induction lines with
  | nil => rfl
  | cons line lines ih =>
      obtain ⟨⟨body, unbroken, rfl⟩, others⟩ := List.forall_mem_cons.mp ended
      have cut := cutLines_append unbroken (lines.flatten ++ rest)
      rw [List.flatten_cons, List.append_assoc, List.append_assoc, List.singleton_append, cut,
        ih others, List.cons_append]

/-- Every line that another line follows is whole. -/
theorem isEnded_of_cutLines {symbols last : List symbol} {before after : List (List symbol)}
    (cut : cutLines newline symbols = before ++ last :: after) :
    ∀ line ∈ before, IsEnded newline line := by
  -- The induction is on the sequence, and it takes the lines off the front of the cut.
  induction symbols generalizing before with
  | nil => simp [cutLines] at cut
  | cons head rest ih =>
      cases before with
      | nil => simp
      | cons first before =>
          by_cases atEnd : head = newline
          · simp only [cutLines, if_pos atEnd, List.cons_append, List.cons.injEq] at cut
            obtain ⟨rfl, cutRest⟩ := cut
            exact List.forall_mem_cons.mpr ⟨⟨[], by simp, by simp [atEnd]⟩, ih cutRest⟩
          · rw [cutLines, if_neg atEnd] at cut
            cases restLines : cutLines newline rest with
            | nil => simp [restLines] at cut
            | cons line lines =>
                simp only [restLines, List.cons_append, List.cons.injEq] at cut
                obtain ⟨rfl, rfl⟩ := cut
                have cutRest : cutLines newline rest = (line :: before) ++ last :: after := by
                  rw [restLines, List.cons_append]
                obtain ⟨lineEnded, others⟩ := List.forall_mem_cons.mp (ih cutRest)
                exact List.forall_mem_cons.mpr ⟨lineEnded.cons atEnd, others⟩

/-- A newline at the end of a sequence lets the cut go on behind it as if it
began there. -/
theorem cutLines_append_of_getLast? {symbols : List symbol}
    (last : symbols.getLast? = some newline) (rest : List symbol) :
    cutLines newline (symbols ++ rest) = cutLines newline symbols ++ cutLines newline rest := by
  obtain ⟨body, rfl⟩ := List.getLast?_eq_some_iff.mp last
  induction body with
  | nil => simp [cutLines]
  | cons head body ih =>
      have cut := ih (by simp)
      by_cases atEnd : head = newline
      · simp only [List.cons_append, cutLines, if_pos atEnd]
        rw [cut]
      · have nonempty : cutLines newline (body ++ [newline]) ≠ [] := by
          intro empty
          have joined := flatten_cutLines newline (body ++ [newline])
          simp [empty] at joined
        obtain ⟨line, lines, restLines⟩ := List.exists_cons_of_ne_nil nonempty
        simp only [List.cons_append, cutLines, if_neg atEnd]
        rw [cut, restLines]
        rfl

end Cutting

theorem encode_ofList (characters : List Char) :
    encode (String.ofList characters) = characters.flatMap String.utf8EncodeChar := by
  simp [encode, String.toUTF8_eq_toByteArray, List.utf8Encode]

theorem encode_eq_flatMap (text : String) :
    encode text = text.toList.flatMap String.utf8EncodeChar := by
  rw [← encode_ofList, String.ofList_toList]

@[simp]
theorem encode_append (first second : String) :
    encode (first ++ second) = encode first ++ encode second := by
  simp [encode_eq_flatMap]

@[simp]
theorem encode_join (texts : List String) :
    encode (String.join texts) = (texts.map encode).flatten := by
  induction texts with
  | nil => rfl
  | cons text texts ih => simp [String.join_cons, ih]

theorem decode?_eq_some_iff {bytes : List UInt8} {text : String} :
    decode? bytes = some text ↔ bytes = encode text := by
  constructor
  · intro decoded
    unfold decode? String.fromUTF8? at decoded
    split at decoded
    next valid =>
      obtain rfl := Option.some.inj decoded
      rfl
    next => simp at decoded
  · rintro rfl
    exact decode?_encode text

theorem decode?_eq_none_iff {bytes : List UInt8} :
    decode? bytes = none ↔ ∀ text, bytes ≠ encode text := by
  rw [Option.eq_none_iff_forall_ne_some]
  exact forall_congr' fun text => not_congr decode?_eq_some_iff

/-- Only the newline is encoded with its byte. -/
theorem newline_not_mem_utf8EncodeChar {character : Char} (different : character ≠ '\n') :
    10 ∉ String.utf8EncodeChar character := by
  have code : character.val.toNat ≠ 10 := by
    intro same
    exact different (Char.ext (UInt32.toNat_inj.mp same))
  fun_cases String.utf8EncodeChar <;> simp [← UInt8.toNat_inj] <;> omega

theorem newline_not_mem_encode {text : String} (unbroken : '\n' ∉ text.toList) :
    10 ∉ encode text := by
  rw [encode_eq_flatMap, List.mem_flatMap]
  rintro ⟨character, member, inCharacter⟩
  have different : character ≠ '\n' := fun same => unbroken (same ▸ member)
  exact newline_not_mem_utf8EncodeChar different inCharacter

/-- A text that ends with its only newline is encoded as a whole line. -/
theorem isEnded_encode (body : String) (unbroken : '\n' ∉ body.toList) :
    IsEnded 10 (encode (body ++ "\n")) :=
  ⟨encode body, newline_not_mem_encode unbroken, by
    rw [encode_append]
    rfl⟩

end Text

end ColumnCode

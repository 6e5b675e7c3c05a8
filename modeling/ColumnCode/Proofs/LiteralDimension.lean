import ColumnCode.Dimension
import Mathlib.Data.List.TakeWhile
import Mathlib.Data.Nat.Digits.Defs

/-!
# Literal dimensions

A token is a literal exactly if it consists of digits that write a 64-bit word.
The word is accumulated digit by digit, and the accumulation stops before it
would leave the words, so it never wraps around.  A literal keeps the digits it
was written with, and beside them the word that they denote.  The word written
again has the same digits, except for zeros in front that could have been left
out.
-/

namespace ColumnCode

namespace Dimension

/-- Decimal digits without the zeros in front that could be left out.  One zero
stays if there is nothing else. -/
def plainDigits (digits : List Char) : List Char :=
  if digits.dropWhile (· == '0') = [] then ['0'] else digits.dropWhile (· == '0')

/-- The number that decimal digits write, every digit by its place. -/
def decimalValue (digits : List Char) : Nat :=
  Nat.ofDigits 10 (digits.reverse.map fun digit => digit.toNat - '0'.toNat)

/-- The token consists of digits that write a 64-bit word. -/
structure WritesWord (token : String) : Prop where
  nonempty : token ≠ ""
  areDigits : ∀ character ∈ token.toList, character.isDigit = true
  isWord : decimalValue token.toList ≤ 2 ^ 64 - 1

/-- A literal begins with a zero that could be left out. -/
def HasSpareZero (spelling : String) : Prop :=
  ∃ others, others ≠ [] ∧ spelling.toList = '0' :: others

theorem exists_digitChar {digit : Char} (isDigit : digit.isDigit = true) :
    ∃ number < 10, digit = number.digitChar := by
  have bounds : 48 ≤ digit.toNat ∧ digit.toNat ≤ 57 := by
    simpa [Char.isDigit, UInt32.le_iff_toNat_le] using isDigit
  refine ⟨digit.toNat - 48, by omega, Char.toNat_inj.mp ?_⟩
  rw [Nat.toNat_digitChar_of_lt_ten (by omega)]
  omega

/-- Digits behind a positive number are its last digits. -/
theorem toDigits_ofDigitChars_of_pos {digits : List Char}
    (areDigits : ∀ digit ∈ digits, digit.isDigit = true) {front : Nat} (positive : 0 < front) :
    Nat.toDigits 10 (Nat.ofDigitChars 10 digits front) = Nat.toDigits 10 front ++ digits := by
  induction digits generalizing front with
  | nil => simp [Nat.ofDigitChars_nil]
  | cons digit digits ih =>
      obtain ⟨isDigit, others⟩ := List.forall_mem_cons.mp areDigits
      obtain ⟨number, small, rfl⟩ := exists_digitChar isDigit
      have last := Nat.toDigits_append_toDigits (by decide : 1 < 10) positive small
      rw [Nat.toDigits_of_lt_base small] at last
      rw [Nat.ofDigitChars_cons_digitChar_of_lt_ten small, ih others (by omega), ← last,
        List.append_assoc, List.singleton_append]

/-- The number that digits write is written with their plain digits. -/
theorem toDigits_ofDigitChars {digits : List Char}
    (areDigits : ∀ digit ∈ digits, digit.isDigit = true) :
    Nat.toDigits 10 (Nat.ofDigitChars 10 digits 0) = plainDigits digits := by
  induction digits with
  | nil => rfl
  | cons digit digits ih =>
      obtain ⟨isDigit, others⟩ := List.forall_mem_cons.mp areDigits
      obtain ⟨number, small, rfl⟩ := exists_digitChar isDigit
      rw [Nat.ofDigitChars_cons_digitChar_of_lt_ten small, Nat.mul_zero, Nat.zero_add]
      rcases Nat.eq_zero_or_pos number with rfl | positive
      · exact ih others
      · have first : (number.digitChar == '0') = false := by
          simpa using Nat.pos_iff_ne_zero.mp positive
        rw [toDigits_ofDigitChars_of_pos others positive, Nat.toDigits_of_lt_base small]
        simp [plainDigits, first]

/-- Reading digits one after another adds every digit at its place. -/
theorem ofDigitChars_eq_decimalValue (digits : List Char) :
    Nat.ofDigitChars 10 digits 0 = decimalValue digits := by
  induction digits with
  | nil => rfl
  | cons digit digits ih =>
      have places : decimalValue (digit :: digits) =
          decimalValue digits + 10 ^ digits.length * (digit.toNat - '0'.toNat) := by
        simp [decimalValue, Nat.ofDigits_append]
      rw [Nat.ofDigitChars_cons, Nat.ofDigitChars_eq_ofDigitChars_zero, ih, places, Nat.mul_zero,
        Nat.zero_add, Nat.add_comm]

theorem le_ofDigitChars (digits : List Char) (front : Nat) :
    front ≤ Nat.ofDigitChars 10 digits front := by
  rw [Nat.ofDigitChars_eq_ofDigitChars_zero]
  exact Nat.le_add_right_of_le (Nat.le_mul_of_pos_left front (Nat.pow_pos (by decide)))

/-- One more digit is appended exactly if the number is still a word. -/
theorem appendDigit?_eq_some_iff {word next : UInt64} {digit : Char} :
    appendDigit? word digit = some next ↔
      next.toNat = word.toNat * 10 + (digit.toNat - '0'.toNat) := by
  simp only [appendDigit?, Option.ite_none_right_eq_some, Option.some.injEq]
  constructor
  · rintro ⟨small, rfl⟩
    exact UInt64.toNat_ofNat_of_lt' small
  · intro appended
    rw [← appended]
    exact ⟨next.toNat_lt_size, UInt64.ofNat_toNat⟩

/-- In the arithmetic of words, which wraps around, an appended digit has the
same effect. -/
theorem eq_of_appendDigit? {word next : UInt64} {digit : Char}
    (appended : appendDigit? word digit = some next) :
    next = word * 10 + UInt64.ofNat (digit.toNat - '0'.toNat) := by
  calc
    next = UInt64.ofNat next.toNat := UInt64.ofNat_toNat.symm
    _ = UInt64.ofNat (word.toNat * 10 + (digit.toNat - '0'.toNat)) := by
      rw [appendDigit?_eq_some_iff.mp appended]
    _ = UInt64.ofNat word.toNat * 10 + UInt64.ofNat (digit.toNat - '0'.toNat) := by
      rw [UInt64.ofNat_add, UInt64.ofNat_mul]
      rfl
    _ = word * 10 + UInt64.ofNat (digit.toNat - '0'.toNat) := by rw [UInt64.ofNat_toNat]

/-- Digits are appended to a word exactly if they and the word write a word
together. -/
theorem foldlM_appendDigit?_eq_some_iff {digits : List Char} {word value : UInt64} :
    digits.foldlM appendDigit? word = some value ↔
      value.toNat = Nat.ofDigitChars 10 digits word.toNat := by
  induction digits generalizing word with
  | nil =>
      rw [Nat.ofDigitChars_nil, UInt64.toNat_inj]
      exact Option.some_inj.trans eq_comm
  | cons digit digits ih =>
      simp only [List.foldlM_cons, Option.bind_eq_bind, Option.bind_eq_some_iff,
        appendDigit?_eq_some_iff, ih]
      rw [Nat.ofDigitChars_cons, Nat.mul_comm]
      constructor
      · rintro ⟨next, step, rest⟩
        rw [rest, step]
      · intro denoted
        -- Digits only make a number larger, so the number is a word at every step.
        have bound := lt_of_le_of_lt (le_ofDigitChars digits _) (denoted ▸ value.toNat_lt_size)
        have step := UInt64.toNat_ofNat_of_lt' bound
        exact ⟨_, step, by rw [denoted, step]⟩

theorem wordOfDigits?_eq_some_iff {digits : List Char} {word : UInt64} :
    wordOfDigits? digits = some word ↔
      digits ≠ [] ∧ (∀ digit ∈ digits, digit.isDigit = true) ∧
        word.toNat = Nat.ofDigitChars 10 digits 0 := by
  simp [wordOfDigits?, foldlM_appendDigit?_eq_some_iff, and_assoc]

theorem ofToken_eq_literal_iff {token spelling : String} {value : UInt64} :
    ofToken token = .literal spelling value ↔
      spelling = token ∧ wordOfDigits? token.toList = some value := by
  unfold ofToken
  split
  next word denotes => simp [denotes, eq_comm]
  next noWord => simp [noWord]

theorem ofToken_eq_symbol_iff {token spelling : String} :
    ofToken token = .symbol spelling ↔
      spelling = token ∧ wordOfDigits? token.toList = none := by
  unfold ofToken
  split
  next word denotes => simp [denotes]
  next noWord => simp [noWord, eq_comm]

/-- A literal is spelled by its token, and its value is the number that the
digits of the token write. -/
theorem eq_of_ofToken_eq_literal {token spelling : String} {value : UInt64}
    (isLiteral : ofToken token = .literal spelling value) :
    spelling = token ∧ token ≠ "" ∧ (∀ digit ∈ token.toList, digit.isDigit = true) ∧
      value.toNat = Nat.ofDigitChars 10 token.toList 0 := by
  obtain ⟨spelled, denotes⟩ := ofToken_eq_literal_iff.mp isLiteral
  obtain ⟨nonempty, areDigits, denoted⟩ := wordOfDigits?_eq_some_iff.mp denotes
  exact ⟨spelled, mt String.toList_eq_nil_iff.mpr nonempty, areDigits, denoted⟩

/-- The value of a literal is written with the plain digits of its spelling. -/
theorem toList_repr_value {token spelling : String} {value : UInt64}
    (isLiteral : ofToken token = .literal spelling value) :
    value.toNat.repr.toList = plainDigits spelling.toList := by
  obtain ⟨rfl, -, areDigits, denoted⟩ := eq_of_ofToken_eq_literal isLiteral
  rw [Nat.toList_repr, denoted, toDigits_ofDigitChars areDigits]

theorem plainDigits_of_not_hasSpareZero {spelling : String} (nonempty : spelling ≠ "")
    (plain : ¬HasSpareZero spelling) : plainDigits spelling.toList = spelling.toList := by
  obtain ⟨first, others, characters⟩ :=
    List.exists_cons_of_ne_nil (mt String.toList_eq_nil_iff.mp nonempty)
  by_cases zero : first = '0'
  · subst zero
    have alone : others = [] := by
      by_contra more
      exact plain ⟨others, more, characters⟩
    rw [characters, alone]
    rfl
  · simp [plainDigits, characters, zero]

/-- A literal without a zero to leave out is spelled as its value is written. -/
theorem repr_value_of_not_hasSpareZero {token spelling : String} {value : UInt64}
    (isLiteral : ofToken token = .literal spelling value) (plain : ¬HasSpareZero spelling) :
    value.toNat.repr = spelling := by
  obtain ⟨rfl, nonempty, -⟩ := eq_of_ofToken_eq_literal isLiteral
  rw [← String.toList_inj, toList_repr_value isLiteral,
    plainDigits_of_not_hasSpareZero nonempty plain]

/-- The digits of a token are read as a word exactly if they write one. -/
theorem wordOfDigits?_toList_eq_some_iff {token : String} {value : UInt64} :
    wordOfDigits? token.toList = some value ↔
      WritesWord token ∧ value.toNat = decimalValue token.toList := by
  rw [wordOfDigits?_eq_some_iff, ofDigitChars_eq_decimalValue]
  constructor
  · rintro ⟨nonempty, areDigits, denoted⟩
    have isWord := Nat.le_pred_of_lt value.toNat_lt_size
    exact ⟨⟨mt String.toList_eq_nil_iff.mpr nonempty, areDigits, denoted ▸ isWord⟩, denoted⟩
  · rintro ⟨writesWord, denoted⟩
    exact ⟨mt String.toList_eq_nil_iff.mp writesWord.nonempty, writesWord.areDigits, denoted⟩

theorem wordOfDigits?_toList_eq_none_iff {token : String} :
    wordOfDigits? token.toList = none ↔ ¬WritesWord token := by
  rw [← Option.not_isSome_iff_eq_none, not_iff_not, Option.isSome_iff_exists]
  simp only [wordOfDigits?_toList_eq_some_iff]
  constructor
  · rintro ⟨value, writesWord, -⟩
    exact writesWord
  · intro writesWord
    have bound := Nat.lt_of_le_pred (by decide : 0 < UInt64.size) writesWord.isWord
    exact ⟨UInt64.ofNat (decimalValue token.toList), writesWord, UInt64.toNat_ofNat_of_lt' bound⟩

/-- A token is a literal exactly if it consists of digits that write a word, and
any other token is a symbol.  The value of a literal is the number itself, since
no step of its accumulation leaves the words, and written again it has the plain
digits of the token. -/
theorem literals_are_words :
    (∀ (token spelling : String) (value : UInt64),
      ofToken token = .literal spelling value ↔
        spelling = token ∧ WritesWord token ∧ value.toNat = decimalValue token.toList) ∧
      (∀ token spelling : String,
        ofToken token = .symbol spelling ↔ spelling = token ∧ ¬WritesWord token) ∧
      (∀ (token spelling : String) (value : UInt64), ofToken token = .literal spelling value →
        value.toNat.repr.toList = plainDigits token.toList) ∧
      (∀ (digits : List Char) (word : UInt64),
        digits.foldlM appendDigit? 0 = some word ↔ word.toNat = decimalValue digits) ∧
      ∀ (word next : UInt64) (digit : Char), appendDigit? word digit = some next →
        next = word * 10 + UInt64.ofNat (digit.toNat - '0'.toNat) ∧
          next.toNat = word.toNat * 10 + (digit.toNat - '0'.toNat) := by
  refine ⟨fun token spelling value => ?_, fun token spelling => ?_,
    fun token spelling value isLiteral => ?_, fun digits word => ?_,
    fun word next digit appended => ?_⟩
  · rw [ofToken_eq_literal_iff, wordOfDigits?_toList_eq_some_iff]
  · rw [ofToken_eq_symbol_iff, wordOfDigits?_toList_eq_none_iff]
  · obtain rfl := (ofToken_eq_literal_iff.mp isLiteral).1
    exact toList_repr_value isLiteral
  · rw [foldlM_appendDigit?_eq_some_iff, ← ofDigitChars_eq_decimalValue]
    rfl
  · exact ⟨eq_of_appendDigit? appended, appendDigit?_eq_some_iff.mp appended⟩

/-- The largest word is a literal, also behind zeros, and the next number is a
symbol. -/
theorem literals_are_words_at_limit :
    ofToken "00018446744073709551615" =
        .literal "00018446744073709551615" 18446744073709551615 ∧
      WritesWord "00018446744073709551615" ∧
      (18446744073709551615 : UInt64).toNat.repr.toList =
        plainDigits "00018446744073709551615".toList ∧
      ofToken "00018446744073709551616" = .symbol "00018446744073709551616" ∧
      ¬WritesWord "00018446744073709551616" := by
  have largest : ofToken "00018446744073709551615" =
      .literal "00018446744073709551615" 18446744073709551615 := by decide +kernel
  have next : ofToken "00018446744073709551616" = .symbol "00018446744073709551616" := by
    decide +kernel
  obtain ⟨literal, symbol, writtenAgain, -⟩ := literals_are_words
  exact ⟨largest, ((literal _ _ _).mp largest).2.1, writtenAgain _ _ _ largest, next,
    ((symbol _ _).mp next).2⟩

end Dimension

end ColumnCode

import ColumnCode.Vocabulary
import Mathlib.Data.List.Basic

/-!
# Words in code

Code that is written from a vocabulary is fixed text with words of the vocabulary
in it.  It depends on the vocabulary through these words alone: from vocabularies
that differ in one word the code is the same just when the word does not stand in
it.
-/

namespace ColumnCode

namespace Text

/-- Two texts with a separator between their pieces are joined at the last piece
of the one and the first piece of the other. -/
theorem intercalate_append_intercalate (separator : String) (front : List String)
    (last first : String) (back : List String) :
    separator.intercalate (front ++ [last]) ++ separator.intercalate (first :: back) =
      separator.intercalate (front ++ (last ++ first) :: back) := by
  by_cases alone : front = []
  · subst alone
    rw [List.nil_append, List.nil_append, String.intercalate_singleton,
      String.intercalate_cons_append]
  · rw [String.intercalate_append_of_ne_nil alone (List.cons_ne_nil _ _),
      String.intercalate_append_of_ne_nil alone (List.cons_ne_nil _ _),
      String.intercalate_singleton, String.intercalate_cons_append]
    simp only [String.append_assoc]

theorem length_intercalate_cons (separator first : String) (others : List String) :
    (separator.intercalate (first :: others)).length =
      (String.join (first :: others)).length + others.length * separator.length := by
  induction others generalizing first with
  | nil => simp
  | cons second others ih =>
      rw [String.intercalate_cons_cons, String.length_append, String.length_append, ih]
      simp only [String.join_cons, String.length_append, List.length_cons, Nat.succ_mul]
      omega

/-- Where a separator stands at all, the text tells which one it is. -/
theorem intercalate_injective {pieces : List String} (several : 1 < pieces.length)
    {first second : String} (same : first.intercalate pieces = second.intercalate pieces) :
    first = second := by
  match pieces, several with
  | piece :: another :: others, _ =>
      have lengths := congrArg String.length same
      rw [length_intercalate_cons, length_intercalate_cons] at lengths
      have sameLength : first.toList.length = second.toList.length := by
        have multiples : (another :: others).length * first.length =
            (another :: others).length * second.length := by omega
        rw [String.length_toList, String.length_toList]
        exact Nat.eq_of_mul_eq_mul_left (by simp) multiples
      rw [String.intercalate_cons_cons, String.intercalate_cons_cons, String.append_assoc,
        String.append_assoc, String.append_right_inj, ← String.toList_inj, String.toList_append,
        String.toList_append] at same
      exact String.toList_inj.mp (List.append_inj same sameLength).1

end Text

namespace Vocabulary

/-- The entries of a vocabulary. -/
inductive Word where
  | runtime
  | nameType
  | formatter
  | tree
  | selection
  | enableFlag
  | storageName
  | recordName
  | capacity
  | entrySize
  | origin
  | ownStore
  | givenStore
  | givenPosition
  | printStream
  | printIndent
  deriving DecidableEq, Repr

/-- The text that a vocabulary has for a word. -/
def text (vocabulary : Vocabulary) : Word → String
  | .runtime => vocabulary.runtime
  | .nameType => vocabulary.nameType
  | .formatter => vocabulary.formatter
  | .tree => vocabulary.tree
  | .selection => vocabulary.selection
  | .enableFlag => vocabulary.enableFlag
  | .storageName => vocabulary.storageName
  | .recordName => vocabulary.recordName
  | .capacity => vocabulary.capacity
  | .entrySize => vocabulary.entrySize
  | .origin => vocabulary.origin
  | .ownStore => vocabulary.ownStore
  | .givenStore => vocabulary.givenStore
  | .givenPosition => vocabulary.givenPosition
  | .printStream => vocabulary.printStream
  | .printIndent => vocabulary.printIndent

/-- The two vocabularies have the same texts for all words but one. -/
def AgreeExcept (word : Word) (first second : Vocabulary) : Prop :=
  ∀ other, other ≠ word → first.text other = second.text other

theorem AgreeExcept.refl (word : Word) (vocabulary : Vocabulary) :
    AgreeExcept word vocabulary vocabulary :=
  fun _ _ => rfl

/-- The vocabulary with another text for a word. -/
def withText (vocabulary : Vocabulary) (text : String) : Word → Vocabulary
  | .runtime => { vocabulary with runtime := text }
  | .nameType => { vocabulary with nameType := text }
  | .formatter => { vocabulary with formatter := text }
  | .tree => { vocabulary with tree := text }
  | .selection => { vocabulary with selection := text }
  | .enableFlag => { vocabulary with enableFlag := text }
  | .storageName => { vocabulary with storageName := text }
  | .recordName => { vocabulary with recordName := text }
  | .capacity => { vocabulary with capacity := text }
  | .entrySize => { vocabulary with entrySize := text }
  | .origin => { vocabulary with origin := text }
  | .ownStore => { vocabulary with ownStore := text }
  | .givenStore => { vocabulary with givenStore := text }
  | .givenPosition => { vocabulary with givenPosition := text }
  | .printStream => { vocabulary with printStream := text }
  | .printIndent => { vocabulary with printIndent := text }

theorem agreeExcept_withText (vocabulary : Vocabulary) (text : String) (word : Word) :
    AgreeExcept word vocabulary (vocabulary.withText text word) := by
  intro other different
  cases word <;> cases other <;> first | rfl | exact absurd rfl different

namespace Word

/-- How a text for the word is written.  A namespace brings its separator. -/
def written (word : Word) (text : String) : String :=
  if word = .runtime ∧ text ≠ "" then text ++ "::" else text

theorem written_injective (word : Word) {first second : String}
    (same : word.written first = word.written second) : first = second := by
  have separated (text : String) : "" ≠ text ++ "::" := by
    intro empty
    have characters := congrArg String.toList empty
    simp at characters
  unfold written at same
  split_ifs at same with notFirst notSecond notSecond
  · exact (String.append_left_inj "::").mp same
  · have empty : second = "" := by
      by_contra present
      exact notSecond ⟨notFirst.1, present⟩
    exact absurd (empty.symm.trans same.symm) (separated first)
  · have empty : first = "" := by
      by_contra present
      exact notFirst ⟨notSecond.1, present⟩
    exact absurd (empty.symm.trans same) (separated second)
  · exact same

end Word

/-- A word stands at a number of places in code that is written from a
vocabulary.  The pieces around them do not depend on the word. -/
def Stands (word : Word) (code : Vocabulary → String) (places : Nat) : Prop :=
  ∀ vocabulary, ∃ pieces : List String, pieces.length = places + 1 ∧
    ∀ other, AgreeExcept word vocabulary other →
      code other = (word.written (other.text word)).intercalate pieces

namespace Stands

variable {word : Word} {code front back : Vocabulary → String} {places inFront inBack : Nat}

theorem constant (text : String) : Stands word (fun _ => text) 0 :=
  fun _ => ⟨[text], rfl, fun _ _ => String.intercalate_singleton.symm⟩

/-- A word that is not the namespace is written as it is. -/
theorem ofText (other : Word) (plain : other ≠ .runtime) :
    Stands word (·.text other) ([other].count word) := by
  intro vocabulary
  by_cases same : other = word
  · subst same
    refine ⟨["", ""], by simp, fun another _ => ?_⟩
    simp [Word.written, plain]
  · refine ⟨[vocabulary.text other], by simp [same], fun another agree => ?_⟩
    rw [String.intercalate_singleton]
    exact (agree other same).symm

theorem runtimeFunction (function : String) :
    Stands word (·.runtimeFunction function) ([Word.runtime].count word) := by
  intro vocabulary
  by_cases same : .runtime = word
  · subst same
    refine ⟨["", function], by simp, fun other _ => ?_⟩
    unfold Vocabulary.runtimeFunction Word.written Vocabulary.text
    by_cases absent : other.runtime = "" <;> simp [absent]
  · refine ⟨[vocabulary.runtimeFunction function], by simp [same], fun other agree => ?_⟩
    have runtime : vocabulary.runtime = other.runtime := agree .runtime same
    rw [String.intercalate_singleton]
    simp only [Vocabulary.runtimeFunction, runtime]

/-- Code that is joined from two parts has the places of both. -/
theorem append (standsFront : Stands word front inFront) (standsBack : Stands word back inBack) :
    Stands word (fun vocabulary => front vocabulary ++ back vocabulary) (inFront + inBack) := by
  intro vocabulary
  obtain ⟨frontPieces, frontLength, frontCode⟩ := standsFront vocabulary
  obtain ⟨backPieces, backLength, backCode⟩ := standsBack vocabulary
  obtain ⟨pieces, last, rfl⟩ : ∃ pieces last, frontPieces = pieces ++ [last] := by
    rcases List.eq_nil_or_concat frontPieces with rfl | ⟨pieces, last, rfl⟩
    · simp at frontLength
    · exact ⟨pieces, last, List.concat_eq_append⟩
  obtain ⟨first, others, rfl⟩ : ∃ first others, backPieces = first :: others := by
    apply List.exists_cons_of_ne_nil
    rintro rfl
    simp at backLength
  refine ⟨pieces ++ (last ++ first) :: others, ?_, fun other agree => ?_⟩
  · simp only [List.length_append, List.length_cons, List.length_nil] at frontLength backLength ⊢
    omega
  · simp only [frontCode other agree, backCode other agree, Text.intercalate_append_intercalate]

/-- Code from two vocabularies that agree but for the word is the same just when
the word does not stand in it or has the same text in both. -/
theorem code_eq_iff (stands : Stands word code places) {first second : Vocabulary}
    (agree : AgreeExcept word first second) :
    code first = code second ↔ places = 0 ∨ first.text word = second.text word := by
  obtain ⟨pieces, length, written⟩ := stands first
  rw [written first (.refl word first), written second agree]
  constructor
  · intro same
    rcases Nat.eq_zero_or_pos places with none | some
    · exact .inl none
    · refine .inr (word.written_injective (Text.intercalate_injective ?_ same))
      omega
  · rintro (rfl | same)
    · obtain ⟨piece, rfl⟩ := List.length_eq_one_iff.mp length
      rw [String.intercalate_singleton, String.intercalate_singleton]
    · rw [same]

end Stands

/-- Each word stands in the code as often as in the list of words, and the code
depends on the vocabulary in no other way. -/
def WrittenFrom (code : Vocabulary → String) (words : List Word) : Prop :=
  ∀ word, Stands word code (words.count word)

namespace WrittenFrom

variable {code front back : Vocabulary → String} {words inFront inBack : List Word}

theorem constant (text : String) : WrittenFrom (fun _ => text) [] :=
  fun _ => Stands.constant text

theorem ofText (other : Word) (plain : other ≠ .runtime) : WrittenFrom (·.text other) [other] :=
  fun _ => Stands.ofText other plain

theorem runtimeFunction (function : String) : WrittenFrom (·.runtimeFunction function) [.runtime] :=
  fun _ => Stands.runtimeFunction function

theorem append (writtenFront : WrittenFrom front inFront) (writtenBack : WrittenFrom back inBack) :
    WrittenFrom (fun vocabulary => front vocabulary ++ back vocabulary) (inFront ++ inBack) := by
  intro word
  rw [List.count_append]
  exact (writtenFront word).append (writtenBack word)

theorem append_text (written : WrittenFrom code words) (text : String) :
    WrittenFrom (fun vocabulary => code vocabulary ++ text) words := by
  have joined := written.append (constant text)
  rwa [List.append_nil] at joined

theorem text_append (text : String) (written : WrittenFrom code words) :
    WrittenFrom (fun vocabulary => text ++ code vocabulary) words :=
  (constant text).append written

/-- The words of the code for several items are those of the code for each. -/
theorem join {Item : Type} {codes : Item → Vocabulary → List String} {wordsOf : Item → List Word}
    (written : ∀ item, WrittenFrom (fun vocabulary => String.join (codes item vocabulary))
      (wordsOf item)) (items : List Item) :
    WrittenFrom (fun vocabulary => String.join (items.flatMap (codes · vocabulary)))
      (items.flatMap wordsOf) := by
  induction items with
  | nil => exact constant ""
  | cons item items ih =>
      simp only [List.flatMap_cons, String.join_append]
      exact (written item).append ih

/-- The arguments of a call stand behind commas, with the words of each. -/
theorem argument {others : Vocabulary → List String} (writtenFirst : WrittenFrom front inFront)
    (writtenOthers : WrittenFrom
      (fun vocabulary => String.join ((others vocabulary).map (", " ++ ·))) inBack) :
    WrittenFrom (fun vocabulary =>
      String.join ((front vocabulary :: others vocabulary).map (", " ++ ·)))
      (inFront ++ inBack) := by
  simp only [List.map_cons, String.join_cons]
  exact (writtenFirst.text_append ", ").append writtenOthers

/-- Ending a line adds no word. -/
theorem line (written : WrittenFrom code words) :
    WrittenFrom (fun vocabulary => String.join ([code vocabulary].map (· ++ "\n"))) words := by
  simp only [List.map_cons, List.map_nil, String.join_cons, String.join_nil, String.append_empty]
  exact written.append_text "\n"

theorem code_eq_iff (written : WrittenFrom code words) {word : Word} {first second : Vocabulary}
    (agree : AgreeExcept word first second) :
    code first = code second ↔ first.text word = second.text word ∨ word ∉ words := by
  rw [(written word).code_eq_iff agree, List.count_eq_zero, or_comm]

end WrittenFrom

end Vocabulary

end ColumnCode

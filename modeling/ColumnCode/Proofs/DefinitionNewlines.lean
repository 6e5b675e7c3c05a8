import ColumnCode.Proofs.SourceEvents
import Mathlib.Data.List.Count

/-!
# Newlines within a definition

A definition is written on one line, but its modifiers may be any characters
except spaces and slashes, and the newline is one of these.  It is a letter
without a meaning, so each newline inside an accepted definition is reported as
an unknown modifier, and no part other than the modifiers holds any.
-/

namespace ColumnCode

namespace Definition.Layout

/-- The modifiers in a text: no newline stands before or behind them. -/
theorem exists_split_at_modifiers (layout : Layout) (code : '\n' ∉ layout.code) :
    ∃ before after, layout.text = before ++ (layout.modifiers?.elim [] id ++ after) ∧
      '\n' ∉ before ∧ '\n' ∉ after := by
  let front := layout.name ++ (layout.tokens.flatMap bracketed ++ '/' :: layout.code)
  have tail := newline_not_mem_tail layout.assignment? layout.remark?
  have unbroken : '\n' ∉ front := by
    simp only [front, List.mem_append, List.mem_cons, not_or]
    exact ⟨layout.isName.newline_not_mem, newline_not_mem_tokens layout.areTokens, by decide, code⟩
  cases letters : layout.modifiers? with
  | none => exact ⟨front, _, by simp [text, front, letters], unbroken, tail⟩
  | some modifiers =>
      refine ⟨front ++ ['/'], _, by simp [text, front, letters], ?_, tail⟩
      simpa using unbroken

theorem count_newline_text (layout : Layout) (code : '\n' ∉ layout.code) :
    layout.text.count '\n' = (layout.modifiers?.elim [] id).count '\n' := by
  obtain ⟨before, after, text, noneBefore, noneAfter⟩ := layout.exists_split_at_modifiers code
  rw [text, List.count_append, List.count_append, List.count_eq_zero.mpr noneBefore,
    List.count_eq_zero.mpr noneAfter, Nat.zero_add, Nat.add_zero]

theorem newline_mem_text_iff (layout : Layout) (code : '\n' ∉ layout.code) :
    '\n' ∈ layout.text ↔ ∃ letters ∈ layout.modifiers?, '\n' ∈ letters := by
  rw [← List.count_pos_iff, layout.count_newline_text code, List.count_pos_iff]
  cases layout.modifiers? <;> simp

end Definition.Layout

theorem Scalar.newline_not_mem_of_code {code : List Char} {scalar : Scalar}
    (isCode : code = [scalar.letter]) : '\n' ∉ code := by
  rw [isCode, List.mem_singleton]
  exact scalar.letter_ne_newline.symm

namespace Branch

/-- An accepted line is laid out with the letter of a scalar type as its code, and
it is reported with the warnings of that layout. -/
theorem exists_layout_of_read {line : String} {branch : Branch}
    (accepted : (read line).value = .ok branch) :
    ∃ layout : Definition.Layout, Text.Terminated layout.text line.toList ∧
      (∃ scalar : Scalar, layout.code = [scalar.letter]) ∧
      layout.definition.name = branch.name ∧
      read line = ⟨warnings layout.definition, .ok branch⟩ := by
  obtain ⟨definition, captured, meant⟩ := value_read_eq_ok_iff.mp accepted
  obtain ⟨-, name, reads⟩ := read_of_captured captured accepted
  obtain ⟨layout, text, rfl⟩ := Definition.Layout.exists_layout captured
  obtain ⟨scalar, code, -⟩ := ofDefinition_eq_ok_iff.mp meant
  refine ⟨layout, Text.terminated_iff.mpr text.symm, ⟨scalar, ?_⟩, name, reads⟩
  simpa [Definition.Layout.definition] using congrArg String.toList code

theorem exists_read_of_layout {line : String} {layout : Definition.Layout}
    (terminated : Text.Terminated layout.text line.toList) {scalar : Scalar}
    (code : layout.code = [scalar.letter]) : ∃ branch, (read line).value = .ok branch := by
  have captured : Definition.ofLine? line = some layout.definition := by
    rw [Definition.ofLine?, Text.terminated_iff.mp terminated, layout.ofCharacters?_text]
  have isCode : layout.definition.code = String.singleton scalar.letter := by
    simp [Definition.Layout.definition, code]
  exact ⟨_, value_read_eq_ok_iff.mpr
    ⟨layout.definition, captured, ofDefinition_eq_ok_iff.mpr ⟨scalar, isCode, rfl⟩⟩⟩

/-- The newline has no meaning as a modifier, so each is reported. -/
theorem count_warnings (definition : Definition) :
    (warnings definition).count (.unknownModifier definition.name '\n') =
      definition.modifiers.toList.count '\n' := by
  have injective : Function.Injective (Event.unknownModifier definition.name) :=
    fun _ _ same => (Event.unknownModifier.inj same).2
  rw [warnings, List.count_map_of_injective _ _ injective, Modifiers.unknownLetters]
  exact List.count_filter (by decide)

/-- A line is accepted with a newline inside exactly if it is laid out with one
among its modifiers.  An accepted line holds as many newlines as are reported
as unknown modifiers. -/
theorem newlines_only_as_modifiers (line : String) :
    ((∃ branch, (read line).value = .ok branch) ∧ '\n' ∈ Text.dropTerminator line.toList ↔
        ∃ layout : Definition.Layout, Text.Terminated layout.text line.toList ∧
          (∃ scalar : Scalar, layout.code = [scalar.letter]) ∧
          ∃ letters ∈ layout.modifiers?, '\n' ∈ letters) ∧
      ∀ branch, (read line).value = .ok branch →
        (Text.dropTerminator line.toList).count '\n' =
          (read line).events.count (.unknownModifier branch.name '\n') := by
  refine ⟨⟨?_, ?_⟩, ?_⟩
  · rintro ⟨⟨branch, accepted⟩, inside⟩
    obtain ⟨layout, terminated, ⟨scalar, code⟩, -⟩ := exists_layout_of_read accepted
    rw [Text.terminated_iff.mp terminated,
      layout.newline_mem_text_iff (Scalar.newline_not_mem_of_code code)] at inside
    exact ⟨layout, terminated, ⟨scalar, code⟩, inside⟩
  · rintro ⟨layout, terminated, ⟨scalar, code⟩, inside⟩
    refine ⟨exists_read_of_layout terminated code, ?_⟩
    rwa [Text.terminated_iff.mp terminated,
      layout.newline_mem_text_iff (Scalar.newline_not_mem_of_code code)]
  · intro branch accepted
    obtain ⟨layout, terminated, ⟨scalar, code⟩, name, reads⟩ := exists_layout_of_read accepted
    rw [Text.terminated_iff.mp terminated,
      layout.count_newline_text (Scalar.newline_not_mem_of_code code), reads, ← name,
      count_warnings]
    simp [Definition.Layout.definition]

/-- Three lines with one branch among them, and one line that is reported
without warnings. -/
theorem newlines_only_as_modifiers_twice :
    (read "x/F/\n!\nm // a\n").value =
        .ok ⟨"x", .float32, .ofTokens [], ⟨true, true⟩, "", " // a"⟩ ∧
      (read "x/F/\n!\nm // a\n").events =
        [.unknownModifier "x" '\n', .unknownModifier "x" '\n'] ∧
      (Text.dropTerminator "x/F/\n!\nm // a\n".toList).count '\n' = 2 ∧
      (read "x[2]/I/m = 1\r\n").value =
        .ok ⟨"x", .int32, .ofTokens ["2"], ⟨false, true⟩, "1", ""⟩ ∧
      (Text.dropTerminator "x[2]/I/m = 1\r\n".toList).count '\n' = 0 := by
  have broken : (read "x/F/\n!\nm // a\n").value =
      .ok ⟨"x", .float32, .ofTokens [], ⟨true, true⟩, "", " // a"⟩ := by decide +kernel
  have events : (read "x/F/\n!\nm // a\n").events =
      [.unknownModifier "x" '\n', .unknownModifier "x" '\n'] := by decide +kernel
  have whole : (read "x[2]/I/m = 1\r\n").value =
      .ok ⟨"x", .int32, .ofTokens ["2"], ⟨false, true⟩, "1", ""⟩ := by decide +kernel
  refine ⟨broken, events, ?_, whole, ?_⟩
  · exact ((newlines_only_as_modifiers _).2 _ broken).trans (by rw [events]; decide)
  · exact ((newlines_only_as_modifiers _).2 _ whole).trans (by decide +kernel)

/-- Two lines, and a line with two newlines at its end, are accepted as one
branch each. -/
theorem lines_accepted_as_one :
    (read "x/F/!\nm").value = .ok ⟨"x", .float32, .ofTokens [], ⟨true, true⟩, "", ""⟩ ∧
      '\n' ∈ Text.dropTerminator "x/F/!\nm".toList ∧
      (read "x/F/m\n\n").value = .ok ⟨"x", .float32, .ofTokens [], ⟨false, true⟩, "", ""⟩ ∧
      '\n' ∈ Text.dropTerminator "x/F/m\n\n".toList := by
  decide +kernel

end Branch

end ColumnCode

import ColumnCode.Proofs.Layout

/-!
# Definitions and the lines written for them

The parts of a definition that is read satisfy the grammar, and any definition
whose parts do is written as a layout with single spaces.
-/

namespace ColumnCode

namespace Definition

/-- The grammar of the parts of a definition.  An absent part is empty. -/
structure WellFormed (definition : Definition) : Prop where
  isName : IsName definition.name.toList
  areTokens : ∀ token ∈ definition.dimensions, IsToken token.toList
  isCode : IsRun inCode definition.code.toList
  modifiers : definition.modifiers = "" ∨ IsRun inCode definition.modifiers.toList
  initializer : definition.initializer = "" ∨ IsRun inLiteral definition.initializer.toList
  comment : definition.comment = "" ∨
    ∃ body, body ≠ "" ∧ '\n' ∉ body.toList ∧ definition.comment = " //" ++ body

theorem Layout.wellFormed_definition (layout : Layout) : layout.definition.WellFormed where
  isName := by simpa [definition] using layout.isName
  areTokens := by simpa [definition] using layout.areTokens
  isCode := by simpa [definition] using layout.isCode
  modifiers := by
    cases modifiers_eq : layout.modifiers? with
    | none => exact .inl (by simp [definition, modifiers_eq])
    | some modifiers =>
        have areModifiers := layout.areModifiers modifiers modifiers_eq
        exact .inr (by simpa [definition, modifiers_eq] using areModifiers)
  initializer := by
    cases assignment_eq : layout.assignment? with
    | none => exact .inl (by simp [definition, assignment_eq])
    | some assignment =>
        exact .inr (by simpa [definition, assignment_eq] using assignment.isLiteral)
  comment := by
    cases remark_eq : layout.remark? with
    | none => exact .inl (by simp [definition, remark_eq])
    | some remark =>
        refine .inr ⟨String.ofList remark.body, ?_, by simpa using remark.onLine, ?_⟩
        · simpa using remark.nonempty
        · rw [← String.toList_inj]
          simp [definition, remark_eq, Remark.comment]

namespace WellFormed

variable {definition : Definition}

theorem isRun_space : IsRun isSpace [' '] := by
  simp [IsRun, isSpace]

theorem exists_modifiers (wellFormed : definition.WellFormed) :
    ∃ modifiers? : Option (List Char), (∀ letters ∈ modifiers?, IsRun inCode letters) ∧
      modifiers?.elim [] id = definition.modifiers.toList ∧
      modifiers?.elim [] ('/' :: ·) =
        (if definition.modifiers = "" then "" else "/" ++ definition.modifiers).toList := by
  rcases wellFormed.modifiers with absent | areModifiers
  · exact ⟨none, by simp, by simp [absent], by simp [absent]⟩
  · have present : definition.modifiers ≠ "" := by
      intro absent
      exact areModifiers.1 (by simp [absent])
    exact ⟨some definition.modifiers.toList, by simpa using areModifiers, rfl, by simp [present]⟩

theorem exists_assignment (wellFormed : definition.WellFormed) :
    ∃ assignment? : Option Assignment,
      assignment?.elim [] Assignment.literal = definition.initializer.toList ∧
      assignment?.elim [] Assignment.text =
        (if definition.initializer = "" then "" else " = " ++ definition.initializer).toList := by
  rcases wellFormed.initializer with absent | isLiteral
  · exact ⟨none, by simp [absent], by simp [absent]⟩
  · have present : definition.initializer ≠ "" := by
      intro absent
      exact isLiteral.1 (by simp [absent])
    refine ⟨some ⟨[' '], [' '], definition.initializer.toList, isRun_space, isRun_space,
      isLiteral⟩, rfl, ?_⟩
    simp [Assignment.text, present]

theorem exists_remark (wellFormed : definition.WellFormed) :
    ∃ remark? : Option Remark, remark?.elim [] Remark.comment = definition.comment.toList ∧
      remark?.elim [] Remark.text = definition.comment.toList := by
  rcases wellFormed.comment with absent | ⟨body, nonempty, onLine, present⟩
  · exact ⟨none, by simp [absent], by simp [absent]⟩
  · refine ⟨some ⟨[' '], body.toList, isRun_space, by simpa using nonempty, onLine⟩, ?_, ?_⟩
    · simp [Remark.comment, present]
    · simp [Remark.text, present]

theorem toList_brackets (tokens : List String) :
    (tokens.map String.toList).flatMap bracketed =
      (Shape.ofTokens tokens).bracketed.toList := by
  simp [Shape.bracketed, List.flatMap_map, bracketed]

theorem exists_layout (wellFormed : definition.WellFormed) :
    ∃ layout : Layout, layout.definition = definition ∧
      layout.text = definition.render.toList := by
  obtain ⟨modifiers?, areModifiers, letters, modifiersText⟩ := wellFormed.exists_modifiers
  obtain ⟨assignment?, literal, assignmentText⟩ := wellFormed.exists_assignment
  obtain ⟨remark?, comment, remarkText⟩ := wellFormed.exists_remark
  let layout : Layout := {
    name := definition.name.toList
    tokens := definition.dimensions.map String.toList
    code := definition.code.toList
    modifiers? := modifiers?
    assignment? := assignment?
    remark? := remark?
    isName := wellFormed.isName
    areTokens := by simpa using wellFormed.areTokens
    isCode := wellFormed.isCode
    areModifiers := areModifiers }
  refine ⟨layout, ?_, ?_⟩
  · simp [layout, Layout.definition, letters, literal, comment, Function.comp_def]
  · simp only [render, String.toList_append, ← toList_brackets, ← modifiersText,
      ← assignmentText, ← remarkText]
    simp [layout, Layout.text, Layout.tail]

/-- A definition is read back from the line that is written for it, unless the
line ends with a newline of its own. -/
theorem ofLine?_render (wellFormed : definition.WellFormed)
    (last : definition.render.toList.getLast? ≠ some '\n') :
    ofLine? definition.render = some definition := by
  obtain ⟨layout, rfl, text_eq⟩ := wellFormed.exists_layout
  rw [← text_eq] at last
  rw [ofLine?, ← text_eq, Text.terminated_iff.mp (.unended last), layout.ofCharacters?_text]

theorem newline_not_mem_render (wellFormed : definition.WellFormed)
    (code : '\n' ∉ definition.code.toList) (modifiers : '\n' ∉ definition.modifiers.toList) :
    '\n' ∉ definition.render.toList := by
  obtain ⟨layout, rfl, text_eq⟩ := wellFormed.exists_layout
  rw [← text_eq]
  refine Layout.newline_not_mem_text (by simpa [Layout.definition] using code) ?_
  intro letters member
  simpa [Layout.definition, Option.mem_def.mp member] using modifiers

end WellFormed

end Definition

end ColumnCode

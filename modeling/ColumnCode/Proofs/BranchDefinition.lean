import ColumnCode.Proofs.Rendering
import ColumnCode.Proofs.ResetStatement

/-!
# Branches and their definitions

Reading a definition line and writing a branch as one are inverse to each
other.  The branches that can be read are singled out by conditions on their
parts, and each of them is written as a line that reads as that branch.
-/

namespace ColumnCode

theorem Scalar.letter_ne_newline (scalar : Scalar) : scalar.letter ≠ '\n' := by
  cases scalar <;> decide

namespace Branch

/-- The conditions that reading establishes for each part of a branch.  The
reset value and the reset statement are functions of the parts. -/
structure WellFormed (branch : Branch) : Prop where
  isName : Definition.IsName branch.name.toList
  dimensions : ∀ dimension ∈ branch.shape.dimensions,
    ∃ token, Definition.IsToken token.toList ∧ dimension = .ofToken token
  initializer : branch.initializer = "" ∨
    Definition.IsRun Definition.inLiteral branch.initializer.toList
  comment : branch.comment = "" ∨
    ∃ body, body ≠ "" ∧ '\n' ∉ body.toList ∧ branch.comment = " //" ++ body

/-- A definition means a branch if its code is a type letter. -/
theorem ofDefinition_eq_ok_iff {definition : Definition} {branch : Branch} :
    ofDefinition definition = .ok branch ↔
      ∃ scalar : Scalar, definition.code = String.singleton scalar.letter ∧
        branch = {
          name := definition.name
          scalar := scalar
          shape := Shape.ofTokens definition.dimensions
          modifiers := Modifiers.ofLetters definition.modifiers.toList
          initializer := definition.initializer
          comment := definition.comment } := by
  unfold ofDefinition
  cases found : Scalar.ofCode? definition.code with
  | none =>
      refine iff_of_false (by simp) ?_
      rintro ⟨scalar, code, -⟩
      rw [Scalar.ofCode?_eq_some_iff.mpr code] at found
      exact Option.some_ne_none scalar found
  | some scalar =>
      have code := Scalar.ofCode?_eq_some_iff.mp found
      simp only [Except.ok.injEq]
      constructor
      · rintro rfl
        exact ⟨scalar, code, rfl⟩
      · rintro ⟨other, otherCode, rfl⟩
        obtain rfl : scalar = other := by
          rw [Scalar.ofCode?_eq_some_iff.mpr otherCode] at found
          exact (Option.some.inj found).symm
        rfl

theorem value_read_eq_ok_iff {line : String} {branch : Branch} :
    (read line).value = .ok branch ↔
      ∃ definition, Definition.ofLine? line = some definition ∧
        ofDefinition definition = .ok branch := by
  unfold read
  cases Definition.ofLine? line with
  | none => simp
  | some definition =>
      cases meant : ofDefinition definition with
      | error reason => simp [meant]
      | ok other => simp [meant]

theorem wellFormed_of_read {line : String} {branch : Branch}
    (accepted : (read line).value = .ok branch) : branch.WellFormed := by
  obtain ⟨definition, ofLine, meant⟩ := value_read_eq_ok_iff.mp accepted
  obtain ⟨layout, -, rfl⟩ := Definition.Layout.exists_layout ofLine
  have wellFormed := layout.wellFormed_definition
  obtain ⟨scalar, -, rfl⟩ := ofDefinition_eq_ok_iff.mp meant
  refine ⟨wellFormed.isName, ?_, wellFormed.initializer, wellFormed.comment⟩
  intro dimension member
  obtain ⟨token, isMember, rfl⟩ : ∃ token ∈ layout.definition.dimensions,
      Dimension.ofToken token = dimension := by
    simpa [Shape.ofTokens] using member
  exact ⟨token, wellFormed.areTokens token isMember, rfl⟩

namespace WellFormed

variable {branch : Branch}

theorem newline_not_mem_modifiers (modifiers : Modifiers) : '\n' ∉ modifiers.letters := by
  rcases modifiers with ⟨transient, mutable⟩
  cases transient <;> cases mutable <;> decide

theorem isRun_modifiers (modifiers : Modifiers) :
    String.ofList modifiers.letters = "" ∨
      Definition.IsRun Definition.inCode (String.ofList modifiers.letters).toList := by
  rcases modifiers with ⟨transient, mutable⟩
  cases transient <;> cases mutable
  · exact .inl rfl
  all_goals exact .inr (by simp [Definition.IsRun, Definition.inCode, Modifiers.letters,
    Modifiers.transientLetter, Modifiers.mutableLetter])

theorem isRun_letter (scalar : Scalar) :
    Definition.IsRun Definition.inCode (String.singleton scalar.letter).toList := by
  cases scalar <;> simp [Definition.IsRun, Definition.inCode, Scalar.letter]

theorem wellFormed_definition (wellFormed : branch.WellFormed) :
    branch.definition.WellFormed where
  isName := wellFormed.isName
  areTokens := by
    intro token member
    obtain ⟨dimension, isDimension, rfl⟩ := List.mem_map.mp member
    obtain ⟨token, isToken, rfl⟩ := wellFormed.dimensions dimension isDimension
    rwa [Dimension.spelling_ofToken]
  isCode := isRun_letter branch.scalar
  modifiers := isRun_modifiers branch.modifiers
  initializer := wellFormed.initializer
  comment := wellFormed.comment

theorem ofTokens_spellings (wellFormed : branch.WellFormed) :
    Shape.ofTokens branch.shape.spellings = branch.shape := by
  have recovered : ∀ dimension ∈ branch.shape.dimensions,
      Dimension.ofToken dimension.spelling = dimension := by
    intro dimension member
    obtain ⟨token, -, rfl⟩ := wellFormed.dimensions dimension member
    rw [Dimension.spelling_ofToken]
  have dimensions : branch.shape.spellings.map Dimension.ofToken = branch.shape.dimensions := by
    rw [Shape.spellings, List.map_map]
    exact (List.map_congr_left recovered).trans (List.map_id _)
  exact congrArg Shape.mk dimensions

theorem ofDefinition_definition (wellFormed : branch.WellFormed) :
    ofDefinition branch.definition = .ok branch := by
  refine ofDefinition_eq_ok_iff.mpr ⟨branch.scalar, rfl, ?_⟩
  simp [definition, wellFormed.ofTokens_spellings]

theorem newline_not_mem_render (wellFormed : branch.WellFormed) :
    '\n' ∉ branch.render.toList := by
  refine wellFormed.wellFormed_definition.newline_not_mem_render ?_ ?_
  · simpa [definition, eq_comm] using branch.scalar.letter_ne_newline
  · simpa [definition] using newline_not_mem_modifiers branch.modifiers

theorem ofLine?_render (wellFormed : branch.WellFormed) :
    Definition.ofLine? branch.render = some branch.definition := by
  refine wellFormed.wellFormed_definition.ofLine?_render fun ended => ?_
  exact wellFormed.newline_not_mem_render (List.mem_of_getLast? ended)

theorem read_render (wellFormed : branch.WellFormed) :
    (read branch.render).value = .ok branch :=
  value_read_eq_ok_iff.mpr
    ⟨branch.definition, wellFormed.ofLine?_render, wellFormed.ofDefinition_definition⟩

end WellFormed

/-- Reading and writing branches are inverse: what is read is well formed and
has the reset value and the reset statement of its parts, what is well formed
is read back from its line, and so is all that was read. -/
theorem read_render_inverse :
    (∀ line branch, (read line).value = .ok branch →
      branch.WellFormed ∧
        branch.resetValue =
          (if branch.initializer = "" then branch.scalar.zero else branch.initializer) ∧
        branch.resetStatement.render =
          Statement.loopRow branch.name branch.shape.rank branch.resetValue) ∧
      (∀ branch : Branch, branch.WellFormed → (read branch.render).value = .ok branch) ∧
      (∀ branch : Branch, branch.WellFormed ↔ ∃ line, (read line).value = .ok branch) ∧
      (∀ line branch, (read line).value = .ok branch →
        (read branch.render).value = .ok branch) := by
  refine ⟨?_, ?_, ?_, ?_⟩
  · intro line branch accepted
    exact ⟨wellFormed_of_read accepted, rfl, branch.render_resetStatement⟩
  · intro branch wellFormed
    exact wellFormed.read_render
  · intro branch
    constructor
    · intro wellFormed
      exact ⟨branch.render, wellFormed.read_render⟩
    · rintro ⟨line, accepted⟩
      exact wellFormed_of_read accepted
  · intro line branch accepted
    exact (wellFormed_of_read accepted).read_render

end Branch

end ColumnCode

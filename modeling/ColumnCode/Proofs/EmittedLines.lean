import ColumnCode.Proofs.DocumentSections
import ColumnCode.Proofs.SourceLines

/-!
# The lines that an operation adds to a listing

An operation adds a number of lines for each branch that depends on the class,
the operation and whether the branch is transient, and on nothing else.  The
lines can be cut out of the listing again.  Only a carriage return at the end
of a line would be lost, and only a comment could bring one; the comments of a
source do not, because its lines are trimmed.
-/

namespace ColumnCode

namespace Text

/-- A text whose last character is taken for a part of the line break behind
it. -/
def EndsInReturn (text : String) : Prop :=
  text.toList.getLast? = some '\r'

instance (text : String) : Decidable (EndsInReturn text) :=
  inferInstanceAs (Decidable (text.toList.getLast? = some '\r'))

/-- The second of two texts decides, unless it is empty. -/
theorem endsInReturn_append {first second : String} :
    EndsInReturn (first ++ second) ↔
      EndsInReturn second ∨ second = "" ∧ EndsInReturn first := by
  unfold EndsInReturn
  rw [String.toList_append, List.getLast?_append, ← String.toList_inj, String.toList_empty,
    ← List.getLast?_eq_none_iff]
  cases second.toList.getLast? <;> simp

theorem not_endsInReturn_ite {condition : Prop} [Decidable condition] {first second : String}
    (notFirst : ¬EndsInReturn first) (notSecond : ¬EndsInReturn second) :
    ¬EndsInReturn (if condition then first else second) := by
  split
  · exact notFirst
  · exact notSecond

theorem lines_eq_map_endedLines (text : String) :
    lines text =
      (endedLines text).map fun line => String.ofList (dropTerminator line.toList) := by
  simp [lines, endedLines, Function.comp_def]

/-- Lines that are joined with newlines are found again. -/
theorem lines_join {texts : List String} (onLine : ∀ text ∈ texts, OnLine text)
    (notReturn : ∀ text ∈ texts, ¬EndsInReturn text) :
    lines (String.join (texts.map (· ++ "\n"))) = texts := by
  rw [lines_eq_map_endedLines, endedLines_join onLine, List.map_map]
  refine (List.map_congr_left fun text member => ?_).trans (List.map_id texts)
  have dropped := terminated_iff.mp (.lineFeed (notReturn text member))
  have characters : (text ++ "\n").toList = text.toList ++ ['\n'] := by simp
  rw [Function.comp_apply, characters, dropped, String.ofList_toList, id]

theorem EndsSolid.not_endsInReturn {text : String} (solid : EndsSolid text) :
    ¬EndsInReturn text := by
  intro ended
  have notBlank := solid '\r' ended
  exact absurd notBlank (by decide)

end Text

open Text (EndsInReturn endsInReturn_append)

theorem Statement.not_endsInReturn_render (statement : Statement) :
    ¬EndsInReturn statement.render := by
  induction statement with
  | assign target value => simp +decide [render, endsInReturn_append]
  | forEach element range body ih => simp +decide [render, endsInReturn_append, ih]

namespace Target

variable {target : Target} {branch : Branch}

/-- The number of lines that an operation adds for a branch. -/
def lineCount (target : Target) (operation : Operation) (branch : Branch) : Nat :=
  if !operation.supportedBy target.role target.backing then
    0
  else if operation.callsRuntime && branch.modifiers.transient then
    0
  else if operation = .deallocate ∧ target.backing = .array then
    2
  else
    1

theorem length_body (target : Target) (operation : Operation) (branch : Branch) :
    (target.body operation branch).length =
      if operation = .deallocate ∧ target.backing = .array then 2 else 1 := by
  rcases target with ⟨role, backing, vocabulary⟩
  cases operation <;> cases backing <;> rfl

theorem length_code (target : Target) (operation : Operation) (branch : Branch) :
    (target.code operation branch).length = target.lineCount operation branch := by
  unfold code treats lineCount
  cases operation.supportedBy target.role target.backing with
  | false => rfl
  | true =>
      cases operation.callsRuntime && branch.modifiers.transient with
      | false => simp [length_body]
      | true => rfl

theorem mem_body_of_mem_code {operation : Operation} {line : String}
    (member : line ∈ target.code operation branch) : line ∈ target.body operation branch := by
  unfold code at member
  split at member
  · exact member
  · simp at member

theorem not_endsInReturn_declaration (comment : ¬EndsInReturn branch.comment) :
    ¬EndsInReturn (target.declaration branch) := by
  have declarator : ¬EndsInReturn (target.declarator branch) := by
    unfold Target.declarator
    split <;> simp +decide [endsInReturn_append]
  have note : ¬EndsInReturn (if branch.modifiers.transient then " // transient" else "") :=
    Text.not_endsInReturn_ite (by decide) (by decide)
  have remark : ¬EndsInReturn (if target.role == .storage then "" else branch.comment) :=
    Text.not_endsInReturn_ite (by decide) comment
  simp only [declaration, endsInReturn_append, declarator, note, remark, and_false, or_self,
    not_false_eq_true]

/-- A declaration can end with the comment of its branch, and every other line
ends with a semicolon. -/
theorem not_endsInReturn_of_mem_body (comment : ¬EndsInReturn branch.comment)
    {operation : Operation} :
    ∀ line ∈ target.body operation branch, ¬EndsInReturn line := by
  cases operation with
  | declare => simpa [body] using not_endsInReturn_declaration comment
  | reset => simpa [body] using branch.resetStatement.not_endsInReturn_render
  | declarePointer => simp +decide [body, pointerDeclaration, endsInReturn_append]
  | allocate =>
      simp only [body, allocation]
      split <;> simp +decide [endsInReturn_append]
  | deallocate =>
      simp only [body, deallocation]
      split <;> simp +decide [endsInReturn_append]
  | assign =>
      simp only [body, assignment]
      split <;> simp +decide [endsInReturn_append]
  | enable => simp +decide [body, enabling, runtimeCall, endsInReturn_append]
  | bind => simp +decide [body, binding, runtimeCall, endsInReturn_append]
  | book => simp +decide [body, booking, runtimeCall, endsInReturn_append]
  | release => simp +decide [body, releasing, runtimeCall, endsInReturn_append]
  | dump => simp +decide [body, printing, endsInReturn_append]

/-- What is written behind a listing does not depend on the listing. -/
theorem text_write_append (target : Target) (operation : Operation) (branches : List Branch)
    (listing : Listing) :
    (target.write operation branches listing).value.text =
      listing.text ++
        String.join ((branches.flatMap (target.code operation)).map (· ++ "\n")) := by
  simp [write, Listing.text_addLines, codeAll]

theorem lines_write {operation : Operation} {branches : List Branch}
    (words : target.vocabulary.OnLine) (parts : ∀ branch ∈ branches, branch.OnLine)
    (comments : ∀ branch ∈ branches, ¬EndsInReturn branch.comment) :
    (target.write operation branches Listing.empty).value.lines =
      branches.flatMap (target.code operation) := by
  have fromBody : ∀ line ∈ branches.flatMap (target.code operation),
      ∃ branch ∈ branches, line ∈ target.body operation branch :=
    fun line member => exists_body_of_mem_codeAll member
  rw [Listing.lines, text_write_append, Listing.empty, String.empty_append]
  apply Text.lines_join
  · intro line member
    obtain ⟨branch, isBranch, inBody⟩ := fromBody line member
    exact onLine_of_mem_body words (parts branch isBranch) line inBody
  · intro line member
    obtain ⟨branch, isBranch, inBody⟩ := fromBody line member
    exact not_endsInReturn_of_mem_body (comments branch isBranch) line inBody

/-- An operation writes behind a listing, branch by branch, as many lines as its
count says, none of them empty or broken.  The lines for a source are all found
again. -/
theorem write_whole_lines (target : Target) (operation : Operation) (branches : List Branch)
    (words : target.vocabulary.OnLine)
    (read : ∀ branch ∈ branches, ∃ line, (Branch.read line).value = .ok branch) :
    (∀ branch ∈ branches,
        (target.code operation branch).length = target.lineCount operation branch ∧
          ∀ line ∈ target.code operation branch, line ≠ "" ∧ Text.OnLine line) ∧
      (∀ listing : Listing,
        (target.write operation branches listing).value.text =
          listing.text ++
            String.join ((branches.flatMap (target.code operation)).map (· ++ "\n"))) ∧
      ∀ source, (Source.read source).value = .ok branches →
        (target.write operation branches Listing.empty).value.lines =
          branches.flatMap (target.code operation) := by
  have parts := onLine_of_read read
  refine ⟨fun branch member => ⟨length_code target operation branch, fun line inCode => ?_⟩,
    text_write_append target operation branches, fun source accepted => lines_write words parts ?_⟩
  · have inBody := mem_body_of_mem_code inCode
    exact ⟨ne_empty_of_mem_body line inBody,
      onLine_of_mem_body words (parts branch member) line inBody⟩
  · intro branch member
    obtain ⟨raw, accepted⟩ := Source.exists_trimmed_of_mem accepted branch member
    exact (Branch.endsSolid_comment accepted).not_endsInReturn

/-- The columns of a storage are freed by two lines each, and the first of the
lines goes on where the listing stopped. -/
theorem write_whole_lines_freed :
    Vocabulary.standard.OnLine ∧
      (∀ branch ∈ [(⟨"pt", .float32, .ofTokens ["4"], ⟨false, true⟩, "", " // a"⟩ : Branch),
          ⟨"tmp", .int8, .ofTokens [], ⟨true, false⟩, "1", ""⟩],
        ∃ line, (Branch.read line).value = .ok branch) ∧
      (Source.read "pt[4]/F/m // a \r\n\n tmp/B/! = 1").value =
        .ok [⟨"pt", .float32, .ofTokens ["4"], ⟨false, true⟩, "", " // a"⟩,
          ⟨"tmp", .int8, .ofTokens [], ⟨true, false⟩, "1", ""⟩] ∧
      (({ role := .storage } : Target).write .deallocate
          [⟨"pt", .float32, .ofTokens ["4"], ⟨false, true⟩, "", " // a"⟩,
            ⟨"tmp", .int8, .ofTokens [], ⟨true, false⟩, "1", ""⟩] ⟨"/* free */ "⟩).value.text =
        "/* free */ delete [] pt;\npt = 0;\ndelete [] tmp;\ntmp = 0;\n" ∧
      (({ role := .storage } : Target).write .deallocate
          [⟨"pt", .float32, .ofTokens ["4"], ⟨false, true⟩, "", " // a"⟩,
            ⟨"tmp", .int8, .ofTokens [], ⟨true, false⟩, "1", ""⟩] Listing.empty).value.lines =
        ["delete [] pt;", "pt = 0;", "delete [] tmp;", "tmp = 0;"] := by
  have read : ∀ branch ∈
      [(⟨"pt", .float32, .ofTokens ["4"], ⟨false, true⟩, "", " // a"⟩ : Branch),
        ⟨"tmp", .int8, .ofTokens [], ⟨true, false⟩, "1", ""⟩],
      ∃ line, (Branch.read line).value = .ok branch := by
    intro branch member
    rcases List.mem_pair.mp member with rfl | rfl
    · exact ⟨"pt[4]/F/m // a", by decide +kernel⟩
    · exact ⟨"tmp/B/! = 1", by decide +kernel⟩
  have source : (Source.read "pt[4]/F/m // a \r\n\n tmp/B/! = 1").value =
      .ok [⟨"pt", .float32, .ofTokens ["4"], ⟨false, true⟩, "", " // a"⟩,
        ⟨"tmp", .int8, .ofTokens [], ⟨true, false⟩, "1", ""⟩] := by
    decide +kernel
  have whole := write_whole_lines { role := .storage } .deallocate _ Vocabulary.onLine_standard read
  exact ⟨Vocabulary.onLine_standard, read, source, (whole.2.1 ⟨"/* free */ "⟩).trans rfl,
    (whole.2.2 _ source).trans rfl⟩

end Target

end ColumnCode

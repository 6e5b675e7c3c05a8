import ColumnCode.Proofs.SourceJoining

/-!
# Sources in normal form

The branches of a source can be written down again, one line for each of them.
The written source is read as the same branches, the first on the first line and
so on, and without any warning.  Nothing is lost to the trimming of lines: a
branch is written with a name in front, and its comment does not end in a blank
because it comes from a trimmed line.
-/

namespace ColumnCode

namespace Text

theorem isBlank_eq_false_of_between {first character last : Char} (above : first ≤ character)
    (below : character ≤ last) (printable : 0x21 ≤ first.toNat ∧ last.toNat ≤ 0x7E) :
    isBlank character = false := by
  have low : first.toNat ≤ character.toNat := above
  have high : character.toNat ≤ last.toNat := below
  simp only [isBlank, Bool.or_eq_false_iff, Bool.and_eq_false_iff, decide_eq_false_iff_not,
    beq_eq_false_iff_ne]
  omega

theorem isBlank_eq_false_of_isAlphanum {character : Char} (inside : character.isAlphanum = true) :
    isBlank character = false := by
  rcases Bool.or_eq_true_iff.mp inside with alphabetic | digit
  · rcases Bool.or_eq_true_iff.mp alphabetic with upper | lower
    · have range : 'A' ≤ character ∧ character ≤ 'Z' := of_decide_eq_true upper
      exact isBlank_eq_false_of_between range.1 range.2 (by decide)
    · have range := Bool.and_eq_true_iff.mp lower
      have above : 'a' ≤ character := of_decide_eq_true range.1
      have below : character ≤ 'z' := of_decide_eq_true range.2
      exact isBlank_eq_false_of_between above below (by decide)
  · have range := Bool.and_eq_true_iff.mp digit
    have above : '0' ≤ character := of_decide_eq_true range.1
    have below : character ≤ '9' := of_decide_eq_true range.2
    exact isBlank_eq_false_of_between above below (by decide)

theorem endsSolid_append {first second : String} :
    EndsSolid (first ++ second) ↔ EndsSolid second ∧ (second = "" → EndsSolid first) := by
  unfold EndsSolid
  rw [String.toList_append, List.getLast?_append]
  cases last : second.toList.getLast? with
  | none =>
      have empty : second = "" := by simpa using last
      simp [empty]
  | some character =>
      have nonempty : second ≠ "" := by
        rintro rfl
        simp at last
      simp [nonempty]

theorem endsSolid_optional (lead : String) {part : String} (solid : EndsSolid part) :
    EndsSolid (if part = "" then "" else lead ++ part) := by
  split
  next => simp [EndsSolid]
  next present => exact endsSolid_append.mpr ⟨solid, fun absent => absurd absent present⟩

/-- Nothing is trimmed off a text that has no blank at either end. -/
theorem trim_of_endsSolid {text : String}
    (begins : ∀ character ∈ text.toList.head?, isBlank character = false)
    (ends : EndsSolid text) : trim text = text := by
  have front : text.toList.dropWhile isBlank = text.toList := by
    cases characters : text.toList with
    | nil => rfl
    | cons head rest =>
        have notBlank := begins head (by simp [characters])
        simp [notBlank]
  have back : text.toList.reverse.dropWhile isBlank = text.toList.reverse := by
    unfold EndsSolid at ends
    rw [← List.head?_reverse] at ends
    cases characters : text.toList.reverse with
    | nil => rfl
    | cons last rest =>
        have notBlank := ends last (by simp [characters])
        simp [notBlank]
  rw [trim, dropBlanks, front, dropBlanksEnd, back, List.reverse_reverse, String.ofList_toList]

/-- The text with a carriage return before every newline. -/
def withReturns (text : String) : String :=
  String.ofList (text.toList.flatMap fun character =>
    if character = '\n' then ['\r', '\n'] else [character])

theorem withReturns_append (first second : String) :
    withReturns (first ++ second) = withReturns first ++ withReturns second := by
  simp [withReturns]

theorem withReturns_of_unbroken {text : String} (unbroken : '\n' ∉ text.toList) :
    withReturns text = text := by
  have kept : text.toList.flatMap (fun character =>
      if character = '\n' then ['\r', '\n'] else [character]) =
        text.toList.flatMap fun character => [character] := by
    refine List.flatMap_congr fun character member => ?_
    have different : character ≠ '\n' := fun same => unbroken (same ▸ member)
    rw [if_neg different]
  rw [withReturns, kept, List.flatMap_singleton', String.ofList_toList]

end Text

namespace Definition

theorem isBlank_eq_false_of_inLiteral {character : Char} (inside : inLiteral character = true) :
    Text.isBlank character = false := by
  simp only [inLiteral, Bool.or_eq_true, beq_iff_eq] at inside
  rcases inside with ((alphanumeric | rfl) | rfl) | rfl
  · exact Text.isBlank_eq_false_of_isAlphanum alphanumeric
  all_goals decide

theorem isBlank_eq_false_of_beginsName {character : Char} (begins : beginsName character = true) :
    Text.isBlank character = false := by
  simp only [beginsName, Bool.or_eq_true, beq_iff_eq] at begins
  rcases begins with alphabetic | rfl
  · exact Text.isBlank_eq_false_of_isAlphanum (by simp [Char.isAlphanum, alphabetic])
  · decide

end Definition

theorem Modifiers.unknownLetters_letters (modifiers : Modifiers) :
    unknownLetters modifiers.letters = [] := by
  rcases modifiers with ⟨transient, mutable⟩
  cases transient <;> cases mutable <;> rfl

namespace Branch

/-- The branches that lines of a source give: their comments do not end in a
blank, which would be trimmed. -/
structure OfSource (branch : Branch) : Prop where
  wellFormed : branch.WellFormed
  comment : Text.EndsSolid branch.comment

variable {branch : Branch}

theorem WellFormed.read_render_silent (wellFormed : branch.WellFormed) :
    read branch.render = ⟨[], .ok branch⟩ := by
  have silent : warnings branch.definition = [] := by
    rw [warnings, definition, String.toList_ofList, Modifiers.unknownLetters_letters, List.map_nil]
  simp only [read, wellFormed.ofLine?_render, wellFormed.ofDefinition_definition, silent]
  rfl

theorem WellFormed.exists_head (wellFormed : branch.WellFormed) :
    ∃ first, branch.render.toList.head? = some first ∧ Text.isBlank first = false := by
  have isName := wellFormed.isName
  cases name : branch.name.toList with
  | nil =>
      rw [name] at isName
      exact isName.elim
  | cons first others =>
      rw [name] at isName
      refine ⟨first, ?_, Definition.isBlank_eq_false_of_beginsName isName.1⟩
      simp [render_eq, name]

theorem OfSource.endsSolid_render (ofSource : branch.OfSource) : Text.EndsSolid branch.render := by
  have code : Text.EndsSolid (String.singleton branch.scalar.letter) := by
    cases branch.scalar <;> simp [Text.EndsSolid, Scalar.letter] <;> decide
  have modifiers : Text.EndsSolid (String.ofList branch.modifiers.letters) := by
    rcases branch.modifiers with ⟨transient, mutable⟩
    cases transient <;> cases mutable <;> simp [Text.EndsSolid, Modifiers.letters] <;> decide
  have initializer : Text.EndsSolid branch.initializer := by
    rcases ofSource.wellFormed.initializer with absent | isLiteral
    · simp [absent, Text.EndsSolid]
    · intro character member
      exact Definition.isBlank_eq_false_of_inLiteral
        (isLiteral.2 character (List.mem_of_getLast? (Option.mem_def.mp member)))
  have lettered := Text.endsSolid_optional "/" modifiers
  have assigned := Text.endsSolid_optional " = " initializer
  -- Every part that can be absent leaves the end to the part before it, and the
  -- letter of the type is always there.
  simp only [render_eq, Text.endsSolid_append]
  exact ⟨ofSource.comment, fun _ => ⟨assigned, fun _ => ⟨lettered, fun _ => ⟨code, fun absent =>
    absurd absent (by simp)⟩⟩⟩⟩

theorem OfSource.trim_render (ofSource : branch.OfSource) :
    Text.trim branch.render = branch.render := by
  obtain ⟨first, head, notBlank⟩ := ofSource.wellFormed.exists_head
  refine Text.trim_of_endsSolid ?_ ofSource.endsSolid_render
  simpa [head] using notBlank

theorem OfSource.render_ne_empty (ofSource : branch.OfSource) : branch.render ≠ "" := by
  obtain ⟨first, head, -⟩ := ofSource.wellFormed.exists_head
  intro empty
  simp [empty] at head

end Branch

namespace Source

/-- The branches written as a source, each on a line with the given end. -/
def renderLines (lineEnd : String) (branches : List Branch) : String :=
  String.join (branches.map fun branch => branch.render ++ lineEnd)

def render (branches : List Branch) : String :=
  renderLines "\n" branches

/-- What is reported for a source that has a branch on each of its lines. -/
def acceptance (branches : List Branch) : List Event :=
  (branches.zipIdx 1).map fun (branch, number) => .accepted number branch.name

theorem ofSource_of_read {text : String} {branches : List Branch}
    (accepted : (read text).value = .ok branches) : ∀ branch ∈ branches, branch.OfSource := by
  intro branch member
  obtain ⟨raw, read⟩ := exists_trimmed_of_mem accepted branch member
  exact ⟨Branch.wellFormed_of_read read, Branch.endsSolid_comment read⟩

section Rendering

variable {branches : List Branch}

theorem withReturns_render (areSource : ∀ branch ∈ branches, branch.OfSource) :
    Text.withReturns (render branches) = renderLines "\r\n" branches := by
  induction branches with
  | nil => rfl
  | cons branch branches ih =>
      obtain ⟨first, others⟩ := List.forall_mem_cons.mp areSource
      have unbroken := Text.withReturns_of_unbroken first.wellFormed.newline_not_mem_render
      have rest := ih others
      simp only [render, renderLines, List.map_cons, String.join_cons] at rest ⊢
      rw [Text.withReturns_append, Text.withReturns_append, unbroken, rest]
      rfl

theorem entries_of_unbroken {line : String} (unbroken : '\n' ∉ line.toList) :
    entries line = numbered [Text.trim line] 1 := by
  rw [entries_eq_pieces, Text.pieces, List.splitOn_eq_singleton unbroken]
  rfl

/-- Blanks before the newlines change nothing: the lines are those of the
branches, numbered from one. -/
theorem entries_renderLines (blanks : String)
    (areBlanks : ∀ character ∈ blanks.toList, Text.isBlank character = true)
    (unbroken : '\n' ∉ blanks.toList) (areSource : ∀ branch ∈ branches, branch.OfSource) :
    entries (renderLines (blanks ++ "\n") branches) = numbered (branches.map Branch.render) 1 := by
  induction branches with
  | nil => rfl
  | cons branch branches ih =>
      obtain ⟨first, others⟩ := List.forall_mem_cons.mp areSource
      have lineUnbroken : '\n' ∉ (branch.render ++ blanks).toList := by
        simp [first.wellFormed.newline_not_mem_render, unbroken]
      have line : Text.trim (branch.render ++ blanks) = branch.render := by
        have trimmed := first.trim_render
        rw [Text.trim] at trimmed ⊢
        rw [String.toList_append, Text.dropBlanks_append_blanks _ areBlanks, trimmed]
      have rows : renderLines (blanks ++ "\n") (branch :: branches) =
          branch.render ++ blanks ++ "\n" ++ renderLines (blanks ++ "\n") branches := by
        simp [renderLines, String.append_assoc]
      have oneLine : lastLine (branch.render ++ blanks) = 1 := by
        rw [lastLine, List.count_eq_zero.mpr lineUnbroken]
      have numbers := numbered_append [branch.render] (branches.map Branch.render) 1
      rw [rows, entries_join, entries_of_unbroken lineUnbroken, line, oneLine, ih others,
        ← numbered_add]
      exact numbers.symm

theorem readEntries_of_read {line : String} {branch : Branch} {events : List Event}
    (accepted : Branch.read line = ⟨events, .ok branch⟩) (number : Nat)
    (rest : List (String × Nat)) :
    readEntries ((line, number) :: rest) =
      ⟨events ++ .accepted number branch.name :: (readEntries rest).events,
        (readEntries rest).value.map (branch :: ·)⟩ := by
  simp [readEntries, accepted, bind, pure, Logged.report]

/-- The lines of branches are all accepted, without a warning. -/
theorem readEntries_render (areSource : ∀ branch ∈ branches, branch.OfSource) (first : Nat) :
    readEntries (numbered (branches.map Branch.render) first) =
      ⟨(branches.zipIdx first).map fun (branch, number) => .accepted number branch.name,
        .ok branches⟩ := by
  induction branches generalizing first with
  | nil => rfl
  | cons branch branches ih =>
      obtain ⟨isFirst, others⟩ := List.forall_mem_cons.mp areSource
      rw [List.map_cons, numbered_cons isFirst.render_ne_empty,
        readEntries_of_read isFirst.wellFormed.read_render_silent, ih others]
      rfl

end Rendering

/-- The branches of a source, written as a source again, are read back without
loss, each on the line where it was written, and with line ends of two
characters as well. -/
theorem rendering_read_back {text : String} {branches : List Branch}
    (accepted : (read text).value = .ok branches) :
    read (render branches) = ⟨acceptance branches, .ok branches⟩ ∧
      read (Text.withReturns (render branches)) = ⟨acceptance branches, .ok branches⟩ := by
  have areSource := ofSource_of_read accepted
  have onFeeds := entries_renderLines "" (by simp) (by simp) areSource
  have onReturns := entries_renderLines "\r" (List.forall_mem_singleton.mpr (by decide))
    (by decide) areSource
  rw [String.empty_append] at onFeeds
  rw [show "\r" ++ "\n" = "\r\n" by decide] at onReturns
  rw [withReturns_render areSource, read, read, render, onFeeds, onReturns,
    readEntries_render areSource]
  exact ⟨rfl, rfl⟩

/-- A source with blanks in odd places, a letter without a meaning and lines of
both kinds, and what is written for it. -/
theorem rendering_read_back_padded :
    (read " pt[2 * N]/F/mq  = 1.5  //  a \t\r\n\n tmp/B/!").value =
        .ok [⟨"pt", .float32, .ofTokens ["2 * N"], ⟨false, true⟩, "1.5", " //  a"⟩,
          ⟨"tmp", .int8, .ofTokens [], ⟨true, false⟩, "", ""⟩] ∧
      read "pt[2 * N]/F/m = 1.5 //  a\ntmp/B/!\n" =
        ⟨[.accepted 1 "pt", .accepted 2 "tmp"],
          .ok [⟨"pt", .float32, .ofTokens ["2 * N"], ⟨false, true⟩, "1.5", " //  a"⟩,
            ⟨"tmp", .int8, .ofTokens [], ⟨true, false⟩, "", ""⟩]⟩ ∧
      read "pt[2 * N]/F/m = 1.5 //  a\r\ntmp/B/!\r\n" =
        ⟨[.accepted 1 "pt", .accepted 2 "tmp"],
          .ok [⟨"pt", .float32, .ofTokens ["2 * N"], ⟨false, true⟩, "1.5", " //  a"⟩,
            ⟨"tmp", .int8, .ofTokens [], ⟨true, false⟩, "", ""⟩]⟩ := by
  have accepted : (read " pt[2 * N]/F/mq  = 1.5  //  a \t\r\n\n tmp/B/!").value =
      .ok [⟨"pt", .float32, .ofTokens ["2 * N"], ⟨false, true⟩, "1.5", " //  a"⟩,
        ⟨"tmp", .int8, .ofTokens [], ⟨true, false⟩, "", ""⟩] := by
    decide +kernel
  have written : render [⟨"pt", .float32, .ofTokens ["2 * N"], ⟨false, true⟩, "1.5", " //  a"⟩,
      ⟨"tmp", .int8, .ofTokens [], ⟨true, false⟩, "", ""⟩] =
        "pt[2 * N]/F/m = 1.5 //  a\ntmp/B/!\n" := by
    decide +kernel
  have back := rendering_read_back accepted
  rw [written, show Text.withReturns "pt[2 * N]/F/m = 1.5 //  a\ntmp/B/!\n" =
    "pt[2 * N]/F/m = 1.5 //  a\r\ntmp/B/!\r\n" by decide +kernel] at back
  exact ⟨accepted, back⟩

end Source

end ColumnCode

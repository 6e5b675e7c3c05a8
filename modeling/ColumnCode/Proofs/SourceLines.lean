import ColumnCode.Proofs.SourceReading

/-!
# The lines of a source

Reading cuts a source behind its newlines, but it can as well be cut at them.
The two cuts differ in carriage returns and in an empty last piece.  Both are
blank, so the trimmed pieces between the newlines are the lines that are read,
with the same numbers.

Since the lines are trimmed, the comment of a branch from a source never ends in
a blank.
-/

namespace ColumnCode

namespace Text

/-- A line as a text without the blanks around it. -/
def trimmed (line : List Char) : String :=
  String.ofList (dropBlanks line)

/-- The trimmed pieces of a text between its newlines. -/
def pieces (text : String) : List String :=
  (text.toList.splitOn '\n').map trimmed

theorem dropBlanksEnd_append_blanks (line : List Char) {blanks : List Char}
    (areBlanks : ∀ character ∈ blanks, isBlank character = true) :
    dropBlanksEnd (line ++ blanks) = dropBlanksEnd line := by
  have reversed : ∀ character ∈ blanks.reverse, isBlank character = true := by
    simpa using areBlanks
  rw [dropBlanksEnd, List.reverse_append, List.dropWhile_append_of_pos reversed, dropBlanksEnd]

theorem dropBlanks_append_blanks (line : List Char) {blanks : List Char}
    (areBlanks : ∀ character ∈ blanks, isBlank character = true) :
    dropBlanks (line ++ blanks) = dropBlanks line := by
  unfold dropBlanks
  rw [List.dropWhile_append]
  split
  next allBlank =>
    have noneLeft : blanks.dropWhile isBlank = [] := List.dropWhile_eq_nil_iff.mpr areBlanks
    rw [noneLeft, List.isEmpty_iff.mp allBlank]
  next => exact dropBlanksEnd_append_blanks _ areBlanks

theorem blank_newline : ∀ character ∈ ['\n'], isBlank character = true :=
  List.forall_mem_singleton.mpr (by decide)

theorem blank_returnFeed : ∀ character ∈ ['\r', '\n'], isBlank character = true :=
  List.forall_mem_cons.mpr ⟨by decide, blank_newline⟩

theorem dropBlanks_of_terminated {text line : List Char} (terminated : Terminated text line) :
    dropBlanks text = dropBlanks line := by
  cases terminated with
  | unended => rfl
  | lineFeed => exact (dropBlanks_append_blanks text blank_newline).symm
  | returnFeed => exact (dropBlanks_append_blanks text blank_returnFeed).symm

theorem trim_lines (text : String) :
    (lines text).map trim = (cutLines '\n' text.toList).map trimmed := by
  rw [lines, List.map_map]
  refine List.map_congr_left fun line _ => ?_
  rw [Function.comp_apply, trim, String.toList_ofList,
    dropBlanks_of_terminated (terminated_iff.mpr rfl)]
  rfl

theorem pieces_join (first second : String) :
    pieces (first ++ "\n" ++ second) = pieces first ++ pieces second := by
  have characters : (first ++ "\n" ++ second).toList = first.toList ++ '\n' :: second.toList := by
    simp
  rw [pieces, characters, List.splitOn_append_cons_self, List.map_append, pieces, pieces]

theorem length_splitOn_newline (characters : List Char) :
    (characters.splitOn '\n').length = characters.count '\n' + 1 := by
  induction characters with
  | nil => rfl
  | cons head rest ih =>
      rw [List.splitOn_cons_eq_if_modifyHead, List.count_cons]
      split <;> simp_all

theorem length_pieces (text : String) : (pieces text).length = text.toList.count '\n' + 1 := by
  rw [pieces, List.length_map, length_splitOn_newline]

/-- A text that does not end in a blank. -/
def EndsSolid (text : String) : Prop :=
  ∀ character ∈ text.toList.getLast?, isBlank character = false

theorem endsSolid_trim (text : String) : EndsSolid (trim text) := by
  rw [EndsSolid, toList_trim, dropBlanks, dropBlanksEnd, List.getLast?_reverse]
  intro character member
  have kept := List.head?_dropWhile_not isBlank (text.toList.dropWhile isBlank).reverse
  rw [Option.mem_def.mp member] at kept
  simpa using kept

/-- A newline is blank, so a text that ends solid has no terminator. -/
theorem dropTerminator_of_endsSolid {text : String} (solid : EndsSolid text) :
    dropTerminator text.toList = text.toList := by
  refine terminated_iff.mp (.unended fun ended => ?_)
  have notBlank := solid '\n' ended
  exact absurd notBlank (by decide)

end Text

/-- A comment ends as its line does. -/
theorem Definition.Layout.getLast?_comment (layout : Layout) :
    layout.definition.comment = "" ∨
      layout.definition.comment.toList.getLast? = layout.text.getLast? := by
  rcases layout with ⟨name, tokens, code, modifiers?, assignment?, remark?, _, _, _, _⟩
  cases remark? with
  | none => exact .inl rfl
  | some remark =>
      right
      simp [definition, text, tail, Remark.text, Remark.comment, List.getLast?_append,
        List.getLast?_cons]

namespace Branch

/-- The comment of a branch from a trimmed line does not end in a blank. -/
theorem endsSolid_comment {raw : String} {branch : Branch}
    (accepted : (read (Text.trim raw)).value = .ok branch) : Text.EndsSolid branch.comment := by
  obtain ⟨definition, ofLine, meant⟩ := value_read_eq_ok_iff.mp accepted
  obtain ⟨layout, text_eq, rfl⟩ := Definition.Layout.exists_layout ofLine
  obtain ⟨scalar, -, rfl⟩ := ofDefinition_eq_ok_iff.mp meant
  have solid := Text.endsSolid_trim raw
  rw [Text.dropTerminator_of_endsSolid solid] at text_eq
  unfold Text.EndsSolid
  rcases layout.getLast?_comment with absent | same
  · simp [absent]
  · rw [same, text_eq]
    exact solid

end Branch

namespace Source

/-- Every branch of a source was read from one of its lines, trimmed. -/
theorem exists_trimmed_of_mem {text : String} {branches : List Branch}
    (accepted : (read text).value = .ok branches) :
    ∀ branch ∈ branches, ∃ raw, (Branch.read (Text.trim raw)).value = .ok branch := by
  rw [read, entries_eq_numbered, value_readEntries_eq_ok_iff] at accepted
  intro branch member
  have isResult : Except.ok branch ∈ branches.map (Except.ok (ε := Rejection)) :=
    List.mem_map_of_mem member
  rw [← accepted] at isResult
  obtain ⟨line, isLine, read⟩ := List.mem_map.mp isResult
  obtain ⟨raw, -, rfl⟩ := List.mem_map.mp (List.mem_filter.mp isLine).1
  exact ⟨raw, read⟩

theorem numbered_cons_congr (line : String) {lines others : List String} (first : Nat)
    (same : numbered lines (first + 1) = numbered others (first + 1)) :
    numbered (line :: lines) first = numbered (line :: others) first := by
  by_cases blank : line = ""
  · rw [blank, numbered_blank, numbered_blank, same]
  · rw [numbered_cons blank, numbered_cons blank, same]

/-- Cutting at newlines instead of behind them keeps the lines that are not
blank, and their numbers. -/
theorem numbered_cutLines (characters : List Char) (first : Nat) :
    numbered ((Text.cutLines '\n' characters).map Text.trimmed) first =
      numbered ((characters.splitOn '\n').map Text.trimmed) first := by
  -- The induction takes the text up to its first newline off the front.
  by_cases broken : '\n' ∈ characters
  · obtain ⟨line, rest, split_eq, unbroken⟩ := List.eq_append_cons_of_mem broken
    have shorter : rest.length < characters.length := by
      rw [split_eq, List.length_append, List.length_cons]
      omega
    have ended : Text.trimmed (line ++ ['\n']) = Text.trimmed line :=
      congrArg String.ofList (Text.dropBlanks_append_blanks line Text.blank_newline)
    rw [split_eq, Text.cutLines_append unbroken, List.splitOn_append_cons_self_of_not_mem unbroken,
      List.map_cons, List.map_cons, ended]
    exact numbered_cons_congr _ first (numbered_cutLines rest (first + 1))
  · rw [List.splitOn_eq_singleton broken]
    cases characters with
    | nil => rfl
    | cons head rest => rw [Text.cutLines_of_not_mem (List.cons_ne_nil head rest) broken]
termination_by characters.length

theorem entries_eq_pieces (text : String) : entries text = numbered (Text.pieces text) 1 := by
  rw [entries_eq_numbered, Text.trim_lines, numbered_cutLines, Text.pieces]

end Source

end ColumnCode

import ColumnCode.Proofs.BlockReading

/-!
# Writing a naming block down again

A block can be written with its two parts in either order, and what is written
reads as the same block.  This rests on what the lines of a part are: each of
them ends with its only newline, and none is a heading or a terminator.
-/

namespace ColumnCode

namespace NamingBlock

/-- The line that opens a part. -/
def headingLine : Part → String
  | .parsing => "(parse)\n"
  | .generating => "(generate)\n"

def terminatorLine : String := "<end>\n"

/-- The block with the parsing part in front. -/
def parsingFirst (block : NamingBlock) : String :=
  headingLine .parsing ++ block.parsing ++ headingLine .generating ++ block.generating ++
    terminatorLine

/-- The block with the generating part in front. -/
def generatingFirst (block : NamingBlock) : String :=
  headingLine .generating ++ block.generating ++ headingLine .parsing ++ block.parsing ++
    terminatorLine

/-- A line that can stand in a part of a written block. -/
def IsContent (line : String) : Prop :=
  Text.IsEnded 10 (Text.encode line) ∧ kindOf line = .content

theorem kindOf_headingLine (part : Part) : kindOf (headingLine part) = .heading part := by
  cases part <;> decide

theorem isEnded_headingLine (part : Part) : Text.IsEnded 10 (Text.encode (headingLine part)) := by
  cases part with
  | parsing => exact Text.isEnded_encode "(parse)" (by decide)
  | generating => exact Text.isEnded_encode "(generate)" (by decide)

theorem not_endsBlock_of_kindOf {line : String} (other : kindOf line ≠ .terminator) :
    ¬EndsBlock line :=
  fun ends => other (kindOf_eq_terminator_iff.mpr ends)

theorem endsBlock_terminatorLine : EndsBlock terminatorLine :=
  kindOf_eq_terminator_iff.mp (by decide)

theorem mem_linesOf {part : Part} {lines : List String} {line : String}
    (member : line ∈ linesOf part lines) : line ∈ lines ∧ kindOf line = .content := by
  obtain ⟨entry, kept, rfl⟩ := List.mem_map.mp member
  obtain ⟨inLines, belongs⟩ := List.mem_filter.mp kept
  simp only [Bool.decide_and, Bool.and_eq_true, decide_eq_true_eq] at belongs
  exact ⟨List.fst_mem_of_mem_zipIdx inLines, belongs.1⟩

section Contents

variable {contents : List String}

/-- Content belongs to the part that is open before it. -/
theorem linesOf_append_contents (before : List String)
    (areContent : ∀ line ∈ contents, kindOf line = .content) (part : Part) :
    linesOf part (before ++ contents) =
      linesOf part before ++ if openPart? before = some part then contents else [] := by
  induction contents generalizing before with
  | nil => simp
  | cons line contents ih =>
      obtain ⟨content, others⟩ := List.forall_mem_cons.mp areContent
      have next := ih (before ++ [line]) others
      rw [List.append_assoc, List.singleton_append] at next
      rw [next, linesOf_append, openPart?_append_content before content]
      split_ifs <;> simp_all

end Contents

section Writing

variable {first second : Part} {firstLines secondLines : List String}

/-- The lines of two parts, one behind the other, each behind its heading. -/
def partLines (first : Part) (firstLines : List String) (second : Part)
    (secondLines : List String) : List String :=
  headingLine first :: firstLines ++ headingLine second :: secondLines

theorem linesOf_partLines (areFirst : ∀ line ∈ firstLines, IsContent line)
    (areSecond : ∀ line ∈ secondLines, IsContent line) (part : Part) :
    linesOf part (partLines first firstLines second secondLines) =
      (if first = part then firstLines else []) ++ if second = part then secondLines else [] := by
  have firstContent : ∀ line ∈ firstLines, kindOf line = .content :=
    fun line member => (areFirst line member).2
  have secondContent : ∀ line ∈ secondLines, kindOf line = .content :=
    fun line member => (areSecond line member).2
  have firstHeading := kindOf_headingLine first
  have secondHeading := kindOf_headingLine second
  have openedFirst : openPart? [headingLine first] = some first :=
    openPart?_append_heading [] firstHeading
  have openedSecond : openPart? ([headingLine first] ++ firstLines ++ [headingLine second]) =
      some second := openPart?_append_heading _ secondHeading
  have none : linesOf part [headingLine first] = [] := by
    simp [linesOf, firstHeading]
  have lines_eq : partLines first firstLines second secondLines =
      [headingLine first] ++ firstLines ++ [headingLine second] ++ secondLines := by
    simp [partLines]
  rw [lines_eq, linesOf_append_contents _ secondContent, openedSecond, linesOf_append,
    linesOf_append_contents _ firstContent, openedFirst, none, secondHeading]
  simp

theorem isEnded_of_mem_partLines (first second : Part)
    (areFirst : ∀ line ∈ firstLines, IsContent line)
    (areSecond : ∀ line ∈ secondLines, IsContent line) :
    ∀ line ∈ partLines first firstLines second secondLines,
      Text.IsEnded 10 (Text.encode line) ∧ ¬EndsBlock line := by
  have ofHeading (part : Part) :
      Text.IsEnded 10 (Text.encode (headingLine part)) ∧ ¬EndsBlock (headingLine part) :=
    ⟨isEnded_headingLine part, not_endsBlock_of_kindOf (by simp [kindOf_headingLine])⟩
  have ofContent {line : String} (isContent : IsContent line) :
      Text.IsEnded 10 (Text.encode line) ∧ ¬EndsBlock line :=
    ⟨isContent.1, not_endsBlock_of_kindOf (by simp [isContent.2])⟩
  intro line member
  simp only [partLines, List.cons_append, List.mem_cons, List.mem_append] at member
  rcases member with rfl | inFirst | rfl | inSecond
  · exact ofHeading first
  · exact ofContent (areFirst line inFirst)
  · exact ofHeading second
  · exact ofContent (areSecond line inSecond)

theorem isBlock_written (first second : Part)
    (areFirst : ∀ line ∈ firstLines, IsContent line)
    (areSecond : ∀ line ∈ secondLines, IsContent line) :
    IsBlock
      (Text.encode (headingLine first ++ String.join firstLines ++ headingLine second ++
        String.join secondLines ++ terminatorLine))
      (ofLines (partLines first firstLines second secondLines)) := by
  have written : Text.encode (headingLine first ++ String.join firstLines ++ headingLine second ++
      String.join secondLines ++ terminatorLine) =
      ((partLines first firstLines second secondLines).map Text.encode).flatten ++
        Text.encode terminatorLine := by
    simp [partLines]
  have whole := isEnded_of_mem_partLines first second areFirst areSecond
  refine ⟨partLines first firstLines second secondLines, terminatorLine, ?_,
    fun line member => (whole line member).2, endsBlock_terminatorLine, ?_, rfl⟩
  · rw [written, Text.cutLines_flatten_append]
    · exact congrArg _ (by decide +kernel)
    · intro bytes member
      obtain ⟨line, inLines, rfl⟩ := List.mem_map.mp member
      exact (whole line inLines).1
  · rw [written, List.getLast?_append]
    exact congrArg (Option.or · _) (show (Text.encode terminatorLine).getLast? = some 10 by
      decide +kernel)

end Writing

section Parts

variable {parsing generating : List String}

theorem isBlock_parsingFirst (areParsing : ∀ line ∈ parsing, IsContent line)
    (areGenerating : ∀ line ∈ generating, IsContent line) :
    IsBlock (Text.encode (parsingFirst ⟨String.join parsing, String.join generating⟩))
      ⟨String.join parsing, String.join generating⟩ := by
  have block_eq : ofLines (partLines .parsing parsing .generating generating) =
      ⟨String.join parsing, String.join generating⟩ := by
    simp [ofLines, linesOf_partLines areParsing areGenerating]
  have written := isBlock_written .parsing .generating areParsing areGenerating
  rwa [block_eq] at written

theorem isBlock_generatingFirst (areParsing : ∀ line ∈ parsing, IsContent line)
    (areGenerating : ∀ line ∈ generating, IsContent line) :
    IsBlock (Text.encode (generatingFirst ⟨String.join parsing, String.join generating⟩))
      ⟨String.join parsing, String.join generating⟩ := by
  have block_eq : ofLines (partLines .generating generating .parsing parsing) =
      ⟨String.join parsing, String.join generating⟩ := by
    simp [ofLines, linesOf_partLines areGenerating areParsing]
  have written := isBlock_written .generating .parsing areGenerating areParsing
  rwa [block_eq] at written

end Parts

/-- The lines of a part that were read before a terminator can be written. -/
theorem isContent_of_mem_linesOf {source : List UInt8} {lines : List String} {last : List UInt8}
    {after : List (List UInt8)}
    (cut : Text.cutLines 10 source = lines.map Text.encode ++ last :: after) (part : Part) :
    ∀ line ∈ linesOf part lines, IsContent line := by
  intro line member
  obtain ⟨inLines, content⟩ := mem_linesOf member
  exact ⟨Text.isEnded_of_cutLines cut _ (List.mem_map_of_mem inLines), content⟩

/-- The lines that a part can consist of: each ends with its only newline, holds
no marker of a part, and does not end the block. -/
structure IsPlain (line : String) : Prop where
  ended : ∃ body : String, '\n' ∉ body.toList ∧ line = body ++ "\n"
  noParsing : ¬parsingMarker.toList <:+: line.toList
  noGenerating : ¬generatingMarker.toList <:+: line.toList
  continues : ¬EndsBlock line

theorem IsPlain.isContent {line : String} (isPlain : IsPlain line) : IsContent line := by
  have noParsing := mt Text.occurs_iff.mp isPlain.noParsing
  have noGenerating := mt Text.occurs_iff.mp isPlain.noGenerating
  have noTerminator := mt kindOf_eq_terminator_iff.mp isPlain.continues
  obtain ⟨body, unbroken, rfl⟩ := isPlain.ended
  refine ⟨Text.isEnded_encode body unbroken, ?_⟩
  unfold kindOf at noTerminator ⊢
  split_ifs at noTerminator ⊢
  · exact absurd rfl noTerminator
  · rfl

/-- Both written forms of a block read as the block and leave what follows. -/
def ReadsBack (block : NamingBlock) : Prop :=
  ∀ rest, read (Text.encode block.parsingFirst ++ rest) = ⟨[], ⟨.ok block, rest⟩⟩ ∧
    read (Text.encode block.generatingFirst ++ rest) = ⟨[], ⟨.ok block, rest⟩⟩

theorem readsBack_of_isContent {parsing generating : List String}
    (areParsing : ∀ line ∈ parsing, IsContent line)
    (areGenerating : ∀ line ∈ generating, IsContent line) :
    ReadsBack ⟨String.join parsing, String.join generating⟩ := by
  intro rest
  exact ⟨(isBlock_parsingFirst areParsing areGenerating).read_append rest,
    (isBlock_generatingFirst areParsing areGenerating).read_append rest⟩

/-- What is read from a block with a terminator is read again from both of its
written forms, and so is any block whose parts consist of plain lines. -/
theorem written_blocks_read_back :
    (∀ (source : List UInt8) (lines : List String) (last : String) (after : List (List UInt8))
      (block : NamingBlock),
      Text.cutLines 10 source = lines.map Text.encode ++ Text.encode last :: after →
      (∀ line ∈ lines, ¬EndsBlock line) → EndsBlock last →
      (read source).value.result = .ok block → ReadsBack block) ∧
      ∀ parsing generating : List String, (∀ line ∈ parsing, IsPlain line) →
        (∀ line ∈ generating, IsPlain line) →
        ReadsBack ⟨String.join parsing, String.join generating⟩ := by
  constructor
  · intro source lines last after block cut continues ends result
    have readsTo := ReadsTo.terminated cut continues ends
    rw [readsTo.read_eq] at result
    obtain rfl := Except.ok.inj result
    exact readsBack_of_isContent (isContent_of_mem_linesOf cut .parsing)
      (isContent_of_mem_linesOf cut .generating)
  · intro parsing generating areParsing areGenerating
    exact readsBack_of_isContent (fun line member => (areParsing line member).isContent)
      fun line member => (areGenerating line member).isContent

/-- A source that opens its generating part twice. -/
theorem written_blocks_read_back_reopened :
    Text.cutLines 10 (Text.encode "a\n(generate)\ng\n(parse)\np\n(generate)\nh\n <end>\nb") =
        ["a\n", "(generate)\n", "g\n", "(parse)\n", "p\n", "(generate)\n", "h\n"].map
          Text.encode ++ Text.encode " <end>\n" :: [Text.encode "b"] ∧
      (∀ line ∈ ["a\n", "(generate)\n", "g\n", "(parse)\n", "p\n", "(generate)\n", "h\n"],
        ¬EndsBlock line) ∧
      EndsBlock " <end>\n" ∧
      (read (Text.encode "a\n(generate)\ng\n(parse)\np\n(generate)\nh\n <end>\nb")).value.result =
        .ok ⟨"p\n", "g\nh\n"⟩ ∧
      ReadsBack ⟨"p\n", "g\nh\n"⟩ ∧
      (∀ line ∈ ["p\n"], IsPlain line) ∧ (∀ line ∈ ["g\n", "h\n"], IsPlain line) ∧
      ReadsBack ⟨String.join ["p\n"], String.join ["g\n", "h\n"]⟩ := by
  have cut : Text.cutLines 10
      (Text.encode "a\n(generate)\ng\n(parse)\np\n(generate)\nh\n <end>\nb") =
        ["a\n", "(generate)\n", "g\n", "(parse)\n", "p\n", "(generate)\n", "h\n"].map
          Text.encode ++ Text.encode " <end>\n" :: [Text.encode "b"] := by
    decide +kernel
  have continues : ∀ line ∈
      ["a\n", "(generate)\n", "g\n", "(parse)\n", "p\n", "(generate)\n", "h\n"],
      ¬EndsBlock line := by
    decide +kernel
  have ends : EndsBlock " <end>\n" := by decide +kernel
  have result : (read (Text.encode
      "a\n(generate)\ng\n(parse)\np\n(generate)\nh\n <end>\nb")).value.result =
        .ok ⟨"p\n", "g\nh\n"⟩ := by
    decide +kernel
  have plain (body : String) (unbroken : '\n' ∉ body.toList)
      (noParsing : ¬parsingMarker.toList <:+: (body ++ "\n").toList)
      (noGenerating : ¬generatingMarker.toList <:+: (body ++ "\n").toList)
      (continues : ¬EndsBlock (body ++ "\n")) : IsPlain (body ++ "\n") :=
    ⟨⟨body, unbroken, rfl⟩, noParsing, noGenerating, continues⟩
  have areParsing : ∀ line ∈ ["p\n"], IsPlain line := by
    simpa using plain "p" (by decide) (by decide) (by decide) (by decide)
  have areGenerating : ∀ line ∈ ["g\n", "h\n"], IsPlain line := by
    simpa using ⟨plain "g" (by decide) (by decide) (by decide) (by decide),
      plain "h" (by decide) (by decide) (by decide) (by decide)⟩
  exact ⟨cut, continues, ends, result,
    written_blocks_read_back.1 _ _ _ _ _ cut continues ends result, areParsing, areGenerating,
    written_blocks_read_back.2 _ _ areParsing areGenerating⟩

end NamingBlock

end ColumnCode

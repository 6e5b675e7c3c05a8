import ColumnCode.Proofs.BlockWriting
import ColumnCode.Proofs.DocumentSections
import ColumnCode.Proofs.InvocationOutcome

/-!
# The headings in front of the naming texts

The two texts of a naming block are shown as they are, each behind a heading.
The first heading always begins a line, because a document is made of whole
lines.  The second one stands behind the parsing text, whose last line may lack
its newline.  That is so exactly if the source of the block ends within a line
of the parsing part, and then the heading is joined to that line.
-/

namespace ColumnCode

namespace Text

/-- The text is empty or ends with a newline, so what is written behind it
begins a line. -/
def EndsLine (text : String) : Prop :=
  ∀ character ∈ text.toList.getLast?, character = '\n'

instance (text : String) : Decidable (EndsLine text) :=
  decidable_of_iff (text.toList.getLast?.all (· == '\n') = true) (by
    simp [EndsLine, Option.all_eq_true])

@[simp]
theorem endsLine_empty : EndsLine "" := by
  simp [EndsLine]

theorem endsLine_append {first second : String} :
    EndsLine (first ++ second) ↔ (second = "" → EndsLine first) ∧ EndsLine second := by
  unfold EndsLine
  rw [String.toList_append, List.getLast?_append, ← String.toList_inj, String.toList_empty,
    ← List.getLast?_eq_none_iff]
  cases second.toList.getLast? <;> simp

theorem endsLine_append_newline (line : String) : EndsLine (line ++ "\n") :=
  endsLine_append.mpr ⟨by simp, by decide⟩

theorem EndsLine.append {first second : String} (endsFirst : EndsLine first)
    (endsSecond : EndsLine second) : EndsLine (first ++ second) :=
  endsLine_append.mpr ⟨fun _ => endsFirst, endsSecond⟩

theorem endsLine_join {texts : List String} (ends : ∀ text ∈ texts, EndsLine text) :
    EndsLine (String.join texts) := by
  induction texts with
  | nil => exact endsLine_empty
  | cons text texts ih =>
      obtain ⟨first, others⟩ := List.forall_mem_cons.mp ends
      rw [String.join_cons]
      exact first.append (ih others)

/-- The byte of the newline ends the encoding of a text only as a newline. -/
theorem endsLine_of_getLast? {text : String} (last : (encode text).getLast? = some 10) :
    EndsLine text := by
  intro character member
  obtain ⟨before, characters⟩ := List.getLast?_eq_some_iff.mp member
  by_contra different
  have bytes : encode text = before.flatMap String.utf8EncodeChar ++
      String.utf8EncodeChar character := by
    simp [encode_eq_flatMap, characters]
  rw [bytes, List.getLast?_append_of_ne_nil _ String.utf8EncodeChar_ne_nil] at last
  exact newline_not_mem_utf8EncodeChar different (List.mem_of_getLast? last)

theorem endsLine_of_isEnded {line : String} (ended : IsEnded 10 (encode line)) :
    EndsLine line := by
  obtain ⟨body, -, bytes⟩ := ended
  exact endsLine_of_getLast? (by simp [bytes])

theorem encode_injective : Function.Injective encode := by
  intro first second same
  have decoded := congrArg decode? same
  simpa using decoded

/-- The lines behind an ended text are lines of their own. -/
theorem endedLines_append_of_endsLine {first : String} (ends : EndsLine first) (second : String) :
    endedLines (first ++ second) = endedLines first ++ endedLines second := by
  unfold endedLines
  rw [String.toList_append, ← List.map_append]
  congr 1
  cases last : first.toList.getLast? with
  | none => simp [List.getLast?_eq_none_iff.mp last, cutLines]
  | some character =>
      obtain rfl := ends character last
      exact cutLines_append_of_getLast? last second.toList

theorem endedLines_line {line : String} (onLine : OnLine line) (rest : String) :
    endedLines (line ++ "\n" ++ rest) = (line ++ "\n") :: endedLines rest := by
  have single : ∀ ended ∈ [line], OnLine ended := by simpa using onLine
  simpa using endedLines_append single rest

/-- What stands behind the last newline of a text is its last line, if it is
not empty. -/
theorem exists_last_line (text : String) :
    ∃ before last, text = before ++ last ∧ EndsLine before ∧ OnLine last := by
  have parts := List.takeWhile_append_dropWhile (p := (· != '\n')) (l := text.toList.reverse)
  refine ⟨String.ofList (text.toList.reverse.dropWhile (· != '\n')).reverse,
    String.ofList (text.toList.reverse.takeWhile (· != '\n')).reverse, ?_, ?_, ?_⟩
  · rw [← String.ofList_append, ← List.reverse_append, parts, List.reverse_reverse,
      String.ofList_toList]
  · intro character member
    rw [String.toList_ofList, List.getLast?_reverse, Option.mem_def] at member
    have first := List.head?_dropWhile_not (· != '\n') text.toList.reverse
    rw [member] at first
    simpa using first
  · intro member
    rw [String.toList_ofList, List.mem_reverse] at member
    simpa using List.mem_takeWhile_imp member

/-- A text that does not end its last line has one, and a line written behind
the text is joined to it. -/
theorem exists_joined_line {first : String} (continues : ¬EndsLine first) {line : String}
    (onLine : OnLine line) (rest : String) :
    ∃ before last, endedLines first = before ++ [last] ∧
      endedLines (first ++ (line ++ "\n" ++ rest)) =
        before ++ (last ++ (line ++ "\n")) :: endedLines rest := by
  obtain ⟨ended, last, rfl, ends, unbroken⟩ := exists_last_line first
  have nonempty : last ≠ "" := by
    rintro rfl
    exact continues (by rwa [String.append_empty])
  have alone : endedLines last = [last] := by
    rw [endedLines, cutLines_of_not_mem (by simpa using nonempty) unbroken]
    simp
  refine ⟨endedLines ended, last, ?_, ?_⟩
  · rw [endedLines_append_of_endsLine ends, alone]
  · have joined := endedLines_line (onLine_append.mpr ⟨unbroken, onLine⟩) rest
    rw [String.append_assoc, endedLines_append_of_endsLine ends]
    simpa only [String.append_assoc] using congrArg (endedLines ended ++ ·) joined

end Text

/-- A section leaves a listing as it is or ends with an empty line. -/
theorem Section.endsLine_write (part : Section) {listing : Listing}
    (ends : Text.EndsLine listing.text) : Text.EndsLine (part.write listing).text := by
  unfold Section.write Listing.addSection
  split
  next => exact ends
  next =>
    rw [Listing.addLine, Listing.addText]
    exact Text.endsLine_append.mpr ⟨by simp, Text.endsLine_append_newline ""⟩

theorem Target.endsLine_document (target : Target) (branches : List Branch) :
    Text.EndsLine (target.document branches).value.text := by
  have written (parts : List Section) (listing : Listing) (ends : Text.EndsLine listing.text) :
      Text.EndsLine (parts.foldl (fun listing part => part.write listing) listing).text := by
    induction parts generalizing listing with
    | nil => exact ends
    | cons part parts ih => exact ih _ (part.endsLine_write ends)
  rw [target.value_document]
  exact written _ _ Text.endsLine_empty

namespace NamingBlock

/-- The source is a block without a terminator that ends within a line of the
part. -/
def BreaksOff (part : Part) (source : List UInt8) : Prop :=
  ∃ lines last, Text.cutLines 10 source = lines.map Text.encode ++ [Text.encode last] ∧
    (∀ line ∈ lines, ¬EndsBlock line) ∧ kindOf last = .content ∧ openPart? lines = some part ∧
    ¬Text.EndsLine last

section BreakingOff

variable {part : Part} {source : List UInt8}

/-- A source whose last line is whole does not break off. -/
theorem not_breaksOff_of_getLast? (newlineLast : source.getLast? = some 10) :
    ¬BreaksOff part source := by
  rintro ⟨lines, last, cut, -, -, -, continues⟩
  have nonempty : Text.encode last ≠ [] := by
    intro empty
    obtain rfl := Text.encode_injective (empty.trans (show [] = Text.encode "" from rfl))
    exact continues Text.endsLine_empty
  have bytes := Text.flatten_cutLines 10 source
  rw [cut, List.flatten_append, List.flatten_singleton] at bytes
  rw [← bytes, List.getLast?_append_of_ne_nil _ nonempty] at newlineLast
  exact continues (Text.endsLine_of_getLast? newlineLast)

/-- A source with a terminator does not break off. -/
theorem not_breaksOff_of_endsBlock {lines : List String} {last : String}
    {after : List (List UInt8)}
    (cut : Text.cutLines 10 source = lines.map Text.encode ++ Text.encode last :: after)
    (ends : EndsBlock last) : ¬BreaksOff part source := by
  rintro ⟨others, final, cutOthers, continues, content, -, -⟩
  have member : Text.encode last ∈ (others ++ [final]).map Text.encode := by
    rw [List.map_append, List.map_singleton, ← cutOthers, cut]
    simp
  rw [List.mem_map_of_injective Text.encode_injective, List.mem_append,
    List.mem_singleton] at member
  rcases member with within | rfl
  · exact continues last within ends
  · rw [kindOf_eq_terminator_iff.mpr ends] at content
    exact absurd content (by decide)

theorem breaksOff_iff_of_cut {lines : List String} {last : String}
    (cut : Text.cutLines 10 source = (lines ++ [last]).map Text.encode)
    (continues : ∀ line ∈ lines, ¬EndsBlock line) :
    BreaksOff part source ↔
      (kindOf last = .content ∧ openPart? lines = some part) ∧ ¬Text.EndsLine last := by
  constructor
  · rintro ⟨others, final, cutOthers, -, content, opened, breaks⟩
    have same : lines ++ [last] = others ++ [final] :=
      Text.encode_injective.list_map (by
        rw [← cut, cutOthers, List.map_append, List.map_singleton])
    obtain ⟨rfl, finals⟩ := List.append_inj' same rfl
    obtain rfl := List.singleton_inj.mp finals
    exact ⟨⟨content, opened⟩, breaks⟩
  · rintro ⟨⟨content, opened⟩, breaks⟩
    exact ⟨lines, last, by rw [cut, List.map_append, List.map_singleton], continues, content,
      opened, breaks⟩

/-- All lines of a part are whole, except perhaps the last line of the source. -/
theorem endsLine_linesOf {lines : List String}
    (whole : ∀ line ∈ lines, Text.IsEnded 10 (Text.encode line)) :
    Text.EndsLine (String.join (linesOf part lines)) :=
  Text.endsLine_join fun line member =>
    Text.endsLine_of_isEnded (whole line (mem_linesOf member).1)

/-- The text of the parsing part ends its last line unless the source breaks
off in that part. -/
theorem endsLine_parsing_iff {block : NamingBlock}
    (accepted : (read source).value.result = .ok block) :
    Text.EndsLine block.parsing ↔ ¬BreaksOff .parsing source := by
  obtain ⟨outcome, readsTo⟩ := exists_readsTo source
  rw [readsTo.read_eq] at accepted
  cases readsTo with
  | @terminated lines last after cut continues ends =>
      obtain rfl := Except.ok.inj accepted
      have whole : ∀ line ∈ lines, Text.IsEnded 10 (Text.encode line) := by
        simpa using Text.isEnded_of_cutLines cut
      exact iff_of_true (endsLine_linesOf whole) (not_breaksOff_of_endsBlock cut ends)
  | undecodable => cases accepted
  | @unterminated lines cut continues =>
      obtain rfl := Except.ok.inj accepted
      rcases lines.eq_nil_or_concat' with rfl | ⟨lines, last, rfl⟩
      · refine iff_of_true Text.endsLine_empty ?_
        rintro ⟨others, final, cutOthers, -⟩
        simp [cut] at cutOthers
      · have whole : ∀ line ∈ lines, Text.IsEnded 10 (Text.encode line) := by
          have split : Text.cutLines 10 source =
              lines.map Text.encode ++ Text.encode last :: [] := by
            rw [cut, List.map_append, List.map_singleton]
          simpa using Text.isEnded_of_cutLines split
        have within : ∀ line ∈ lines, ¬EndsBlock line := fun line member =>
          continues line (List.mem_append_left _ member)
        -- All lines before the last one are whole, so the last one decides.
        rw [breaksOff_iff_of_cut cut within]
        change Text.EndsLine (String.join (linesOf .parsing (lines ++ [last]))) ↔ _
        rw [linesOf_append, String.join_append, Text.endsLine_append]
        split_ifs with belongs <;> simp [belongs, endsLine_linesOf whole]

end BreakingOff

end NamingBlock

namespace Invocation

section Showing

variable {block : NamingBlock} {listing : Listing}

theorem text_headings (block : NamingBlock) (listing : Listing) :
    (showBlock block listing).text =
      listing.text ++ ("// naming: parse" ++ "\n") ++ block.parsing ++
        ("// naming: generate" ++ "\n") ++ block.generating :=
  rfl

/-- Behind whole lines the first heading is a line of its own. -/
theorem endedLines_showBlock (ends : Text.EndsLine listing.text) :
    Text.endedLines (showBlock block listing).text =
      Text.endedLines listing.text ++ "// naming: parse\n" ::
        Text.endedLines (block.parsing ++ ("// naming: generate" ++ "\n" ++ block.generating)) := by
  have onLine : Text.OnLine "// naming: parse" := by decide
  have lines := Text.endedLines_line onLine
    (block.parsing ++ ("// naming: generate" ++ "\n" ++ block.generating))
  -- The headings stay apart from their newlines, since simp would compare literals.
  have text : (showBlock block listing).text = listing.text ++ ("// naming: parse" ++ "\n" ++
      (block.parsing ++ ("// naming: generate" ++ "\n" ++ block.generating))) := by
    rw [text_headings, String.append_assoc, String.append_assoc, String.append_assoc]
  rw [text, Text.endedLines_append_of_endsLine ends, lines]
  rfl

theorem endedLines_headings (ends : Text.EndsLine listing.text)
    (endsParsing : Text.EndsLine block.parsing) :
    Text.endedLines (showBlock block listing).text =
      Text.endedLines listing.text ++ "// naming: parse\n" ::
        (Text.endedLines block.parsing ++
          "// naming: generate\n" :: Text.endedLines block.generating) := by
  have onLine : Text.OnLine "// naming: generate" := by decide
  rw [endedLines_showBlock ends, Text.endedLines_append_of_endsLine endsParsing,
    Text.endedLines_line onLine]
  simp only [String.reduceAppend]

/-- Behind a line that goes on the second heading is joined to it. -/
theorem exists_joined_heading (ends : Text.EndsLine listing.text)
    (continues : ¬Text.EndsLine block.parsing) :
    ∃ before last, Text.endedLines block.parsing = before ++ [last] ∧
      Text.endedLines (showBlock block listing).text =
        Text.endedLines listing.text ++ "// naming: parse\n" ::
          (before ++ (last ++ "// naming: generate\n") :: Text.endedLines block.generating) := by
  have onLine : Text.OnLine "// naming: generate" := by decide
  obtain ⟨before, last, lines, joined⟩ :=
    Text.exists_joined_line continues onLine block.generating
  refine ⟨before, last, lines, ?_⟩
  rw [endedLines_showBlock ends, joined]
  simp only [String.reduceAppend]

theorem endsLine_before_generating (ends : Text.EndsLine listing.text) :
    Text.EndsLine (listing.text ++ "// naming: parse\n" ++ block.parsing) ↔
      Text.EndsLine block.parsing := by
  have heading : Text.EndsLine "// naming: parse\n" := by decide
  rw [Text.endsLine_append]
  exact and_iff_right fun _ => ends.append heading

end Showing

/-- The first heading always begins a line.  The second one does so exactly if
the source does not break off in the parsing part.  Then both are lines of their
own, and otherwise the second one is joined to the last line of that part. -/
theorem headings_begin_lines_iff {source : List UInt8} {block : NamingBlock}
    (accepted : (NamingBlock.read source).value.result = .ok block) (target : Target)
    (branches : List Branch) :
    (∀ settings files path, settings.target = target → settings.naming? = some path →
      files path = .ok source → ReadsDefinitions files settings.definitions branches →
        (run settings files).value = .ok (showBlock block (target.document branches).value)) ∧
      (showBlock block (target.document branches).value).text =
        (target.document branches).value.text ++ "// naming: parse\n" ++ block.parsing ++
          "// naming: generate\n" ++ block.generating ∧
      Text.EndsLine (target.document branches).value.text ∧
      (Text.EndsLine
          ((target.document branches).value.text ++ "// naming: parse\n" ++ block.parsing) ↔
        ¬NamingBlock.BreaksOff .parsing source) ∧
      (¬NamingBlock.BreaksOff .parsing source →
        Text.endedLines (showBlock block (target.document branches).value).text =
          Text.endedLines (target.document branches).value.text ++ "// naming: parse\n" ::
            (Text.endedLines block.parsing ++
              "// naming: generate\n" :: Text.endedLines block.generating)) ∧
      (NamingBlock.BreaksOff .parsing source →
        ∃ before last, Text.endedLines block.parsing = before ++ [last] ∧
          Text.endedLines (showBlock block (target.document branches).value).text =
            Text.endedLines (target.document branches).value.text ++ "// naming: parse\n" ::
              (before ++
                (last ++ "// naming: generate\n") :: Text.endedLines block.generating)) ∧
      (source.getLast? = some 10 → ¬NamingBlock.BreaksOff .parsing source) := by
  have ends := target.endsLine_document branches
  have endsParsing := NamingBlock.endsLine_parsing_iff accepted
  refine ⟨?_, ?_, ends, (endsLine_before_generating ends).trans endsParsing, ?_, ?_,
    NamingBlock.not_breaksOff_of_getLast?⟩
  · rintro settings files path rfl named content reads
    have readsNaming : ReadsNaming files path block := ⟨source, content, accepted⟩
    simp only [value_run_of_reads settings reads, named, readsNaming.value_addNaming]
  · rw [text_headings]
    simp only [String.reduceAppend]
  · exact fun whole => endedLines_headings ends (endsParsing.mpr whole)
  · exact fun breaks => exists_joined_heading ends fun whole => endsParsing.mp whole breaks

/-- A source that ends within a line of the other part, shown behind the
document of one column. -/
theorem headings_begin_lines_iff_generating :
    (NamingBlock.read (Text.encode "(parse)\nx\n(generate)\ny")).value.result =
        .ok ⟨"x\n", "y"⟩ ∧
      ¬NamingBlock.BreaksOff .parsing (Text.encode "(parse)\nx\n(generate)\ny") ∧
      Text.endedLines (showBlock ⟨"x\n", "y"⟩ (({ role := .entry } : Target).document
          [⟨"tmp", .int8, .ofTokens [], ⟨true, false⟩, "1", ""⟩]).value).text =
        Text.endedLines (({ role := .entry } : Target).document
          [⟨"tmp", .int8, .ofTokens [], ⟨true, false⟩, "1", ""⟩]).value.text ++
            ["// naming: parse\n", "x\n", "// naming: generate\n", "y"] := by
  have accepted : (NamingBlock.read (Text.encode "(parse)\nx\n(generate)\ny")).value.result =
      .ok ⟨"x\n", "y"⟩ := by decide +kernel
  have parsing : Text.endedLines "x\n" = ["x\n"] := by decide
  have generating : Text.endedLines "y" = ["y"] := by decide
  have shown := headings_begin_lines_iff accepted { role := .entry }
    [⟨"tmp", .int8, .ofTokens [], ⟨true, false⟩, "1", ""⟩]
  have whole := shown.2.2.2.1.mp ((endsLine_before_generating shown.2.2.1).mpr (by decide))
  refine ⟨accepted, whole, ?_⟩
  have lines := shown.2.2.2.2.1 whole
  rwa [parsing, generating] at lines

/-- A source that ends within a line of the parsing part: the second heading is
shown behind that line. -/
theorem heading_joined :
    (NamingBlock.read (Text.encode "(parse)\nx")).value.result = .ok ⟨"x", ""⟩ ∧
      (run ⟨"m.def", { role := .element }, some "n", 0⟩
          (pairOfFiles (Text.encode "(parse)\nx"))).value =
        .ok (showBlock ⟨"x", ""⟩ (({ role := .element } : Target).document
          [⟨"pt", .float32, .ofTokens [], ⟨false, false⟩, "", ""⟩]).value) ∧
      (showBlock ⟨"x", ""⟩ (({ role := .element } : Target).document
          [⟨"pt", .float32, .ofTokens [], ⟨false, false⟩, "", ""⟩]).value).text =
        (({ role := .element } : Target).document
          [⟨"pt", .float32, .ofTokens [], ⟨false, false⟩, "", ""⟩]).value.text ++
            "// naming: parse\n" ++ "x" ++ "// naming: generate\n" ++ "" ∧
      ¬Text.EndsLine ((({ role := .element } : Target).document
        [⟨"pt", .float32, .ofTokens [], ⟨false, false⟩, "", ""⟩]).value.text ++
          "// naming: parse\n" ++ "x") := by
  have accepted : (NamingBlock.read (Text.encode "(parse)\nx")).value.result = .ok ⟨"x", ""⟩ := by
    decide +kernel
  have reads : ReadsDefinitions (pairOfFiles (Text.encode "(parse)\nx")) "m.def"
      [⟨"pt", .float32, .ofTokens [], ⟨false, false⟩, "", ""⟩] :=
    ⟨"pt/F\n", rfl, by decide +kernel⟩
  have readsNaming : ReadsNaming (pairOfFiles (Text.encode "(parse)\nx")) "n" ⟨"x", ""⟩ :=
    ⟨_, rfl, accepted⟩
  refine ⟨accepted, ?_, ?_, ?_⟩
  · rw [value_run_of_reads _ reads]
    exact readsNaming.value_addNaming _
  · rw [text_headings]
    simp only [String.reduceAppend]
  · rw [Text.endsLine_append]
    exact fun ends => absurd ends.2 (by decide)

end Invocation

end ColumnCode

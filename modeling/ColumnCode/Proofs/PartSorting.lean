import ColumnCode.Proofs.NamingHeadings

/-!
# Sorting the lines of a naming block

The reader of a naming block carries the open part from line to line.  Looked at
from a line, that is the part of the nearest marker before it.  Every line
behind the first marker that is no marker itself is therefore in one of the two
texts, and only in one, and the texts do not depend on the order in which runs
of lines for different parts stand.
-/

namespace ColumnCode

namespace Text

section Cutting

variable {symbol : Type} [DecidableEq symbol] {newline : symbol}

/-- A piece without a newline is joined to the first line behind it. -/
theorem cutLines_piece_append {piece : List symbol} (nonempty : piece ≠ [])
    (unbroken : newline ∉ piece) (rest : List symbol) :
    cutLines newline (piece ++ rest) =
      (piece ++ (cutLines newline rest).headD []) :: (cutLines newline rest).tail := by
  induction piece with
  | nil => exact absurd rfl nonempty
  | cons head piece ih =>
      obtain ⟨different, others⟩ := List.ne_and_not_mem_of_not_mem_cons unbroken
      rw [List.cons_append, cutLines, if_neg different.symm]
      cases piece with
      | nil =>
          rw [List.nil_append]
          cases cutLines newline rest <;> rfl
      | cons next piece =>
          rw [ih (List.cons_ne_nil next piece) others]
          rfl

end Cutting

theorem cutLines_flatMap_utf8EncodeChar (characters : List Char) :
    cutLines 10 (characters.flatMap String.utf8EncodeChar) =
      (cutLines '\n' characters).map (·.flatMap String.utf8EncodeChar) := by
  induction characters with
  | nil => rfl
  | cons head rest ih =>
      rw [List.flatMap_cons]
      by_cases atEnd : head = '\n'
      · have newline : String.utf8EncodeChar '\n' = [10] := by decide
        simp [cutLines, atEnd, newline, ih]
      · have first := cutLines_piece_append (List.cons_ne_nil head [])
          (List.mem_singleton.not.mpr (Ne.symm atEnd)) rest
        rw [List.singleton_append] at first
        rw [cutLines_piece_append String.utf8EncodeChar_ne_nil
          (newline_not_mem_utf8EncodeChar atEnd), ih, first]
        cases cutLines '\n' rest <;> simp

/-- The lines of an encoded text are its encoded lines. -/
theorem cutLines_encode (text : String) :
    cutLines 10 (encode text) = (endedLines text).map encode := by
  rw [encode_eq_flatMap, cutLines_flatMap_utf8EncodeChar, endedLines, List.map_map]
  exact List.map_congr_left fun line _ => (encode_ofList line).symm

theorem endedLines_join_append {lines : List String}
    (whole : ∀ line ∈ lines, IsEnded '\n' line.toList) (rest : String) :
    endedLines (String.join lines ++ rest) = lines ++ endedLines rest := by
  have ended : ∀ line ∈ lines.map String.toList, IsEnded '\n' line := by simpa using whole
  have cut := cutLines_flatten_append ended rest.toList
  have characters : (String.join lines ++ rest).toList =
      (lines.map String.toList).flatten ++ rest.toList := by
    simp [List.flatMap_def]
  rw [endedLines, characters, cut, List.map_append, List.map_map]
  simp [Function.comp_def, endedLines]

end Text

namespace NamingBlock

/-- The line marks the beginning of a part.  A line with both markers begins the
parsing part. -/
def Marks : Part → String → Prop
  | .parsing, line => parsingMarker.toList <:+: line.toList
  | .generating, line =>
      generatingMarker.toList <:+: line.toList ∧ ¬parsingMarker.toList <:+: line.toList

instance : (part : Part) → DecidablePred (Marks part)
  | .parsing, _ => inferInstanceAs (Decidable (_ <:+: _))
  | .generating, _ => inferInstanceAs (Decidable (_ ∧ ¬_))

/-- The line is no marker. -/
def Unmarked (line : String) : Prop :=
  ¬Marks .parsing line ∧ ¬Marks .generating line

instance : DecidablePred Unmarked :=
  fun _ => inferInstanceAs (Decidable (¬_ ∧ ¬_))

theorem kindOf_eq_heading_iff {part : Part} {line : String} :
    kindOf line = .heading part ↔ ¬EndsBlock line ∧ Marks part line := by
  rw [← kindOf_eq_terminator_iff]
  unfold kindOf
  cases part <;> split_ifs with ends parses generates <;>
    simp_all [Marks, Text.occurs_iff]

theorem kindOf_eq_content_iff {line : String} :
    kindOf line = .content ↔ ¬EndsBlock line ∧ Unmarked line := by
  rw [← kindOf_eq_terminator_iff]
  unfold kindOf
  split_ifs with ends parses generates <;> simp_all [Unmarked, Marks, Text.occurs_iff]

/-- The nearest marker at the end of some lines belongs to the part. -/
def NearestMarks (part : Part) (before : List String) : Prop :=
  ∃ earlier marker between, before = earlier ++ marker :: between ∧ Marks part marker ∧
    ∀ line ∈ between, Unmarked line

def markedPart? (line : String) : Option Part :=
  if Marks .parsing line then some .parsing
  else if Marks .generating line then some .generating
  else none

theorem markedPart?_eq_some_iff {part : Part} {line : String} :
    markedPart? line = some part ↔ Marks part line := by
  unfold markedPart?
  cases part <;> split_ifs with parses generates <;> simp_all [Marks]

theorem markedPart?_eq_none_iff {line : String} : markedPart? line = none ↔ Unmarked line := by
  unfold markedPart? Unmarked
  split_ifs with parses generates <;> simp_all

theorem nearestMarks_iff {part : Part} {before : List String} :
    NearestMarks part before ↔ before.reverse.findSome? markedPart? = some part := by
  simp only [List.findSome?_eq_some_iff, markedPart?_eq_some_iff, markedPart?_eq_none_iff]
  constructor
  · rintro ⟨earlier, marker, between, rfl, marks, unmarked⟩
    exact ⟨between.reverse, marker, earlier.reverse, by simp, marks, by simpa using unmarked⟩
  · rintro ⟨between, marker, earlier, reversed, marks, unmarked⟩
    refine ⟨earlier.reverse, marker, between.reverse, ?_, marks, by simpa using unmarked⟩
    simpa using congrArg List.reverse reversed

instance (part : Part) : DecidablePred (NearestMarks part) :=
  fun _ => decidable_of_iff _ nearestMarks_iff.symm

theorem headed?_eq_some_iff {line : String} {part : Part} :
    headed? line = some part ↔ kindOf line = .heading part := by
  unfold headed?
  cases kindOf line <;> simp

theorem headed?_eq_markedPart? {line : String} (within : ¬EndsBlock line) :
    headed? line = markedPart? line := by
  ext part
  rw [headed?_eq_some_iff, kindOf_eq_heading_iff, markedPart?_eq_some_iff, and_iff_right within]

section Within

variable {lines : List String} (within : ∀ line ∈ lines, ¬EndsBlock line)

include within

theorem openPart?_eq_findSome? : openPart? lines = lines.reverse.findSome? markedPart? := by
  have headed : lines.reverse.map headed? = lines.reverse.map markedPart? :=
    List.map_congr_left fun line member =>
      headed?_eq_markedPart? (within line (List.mem_reverse.mp member))
  have same := congrArg (List.findSome? id) headed
  rwa [List.findSome?_map, List.findSome?_map, Function.id_comp, Function.id_comp] at same

/-- The open part is that of the nearest marker. -/
theorem openPart?_eq_some_iff {part : Part} :
    openPart? lines = some part ↔ NearestMarks part lines := by
  rw [openPart?_eq_findSome? within, nearestMarks_iff]

theorem openPart?_eq_none_iff :
    openPart? lines = none ↔ lines.dropWhile (fun line => Unmarked line) = [] := by
  simp [openPart?_eq_findSome? within, markedPart?_eq_none_iff, List.dropWhile_eq_nil_iff]

theorem linesOf_eq_filter (part : Part) :
    linesOf part lines =
      (lines.zipIdx.filter fun entry =>
        Unmarked entry.1 ∧ NearestMarks part (lines.take entry.2)).map Prod.fst := by
  rw [linesOf]
  congr 1
  refine List.filter_congr fun entry member => decide_eq_decide.mpr (and_congr ?_ ?_)
  · rw [kindOf_eq_content_iff, and_iff_right (within _ (List.fst_mem_of_mem_zipIdx member))]
  · exact openPart?_eq_some_iff fun line inFront => within line (List.mem_of_mem_take inFront)

/-- The lines behind the first marker that are no markers, each with the part it
belongs to. -/
theorem exists_sorted :
    ∃ sorted : List (String × Part),
      sorted.map Prod.fst =
        (lines.dropWhile fun line => Unmarked line).filter (fun line => Unmarked line) ∧
      ∀ part, linesOf part lines = (sorted.filter (·.2 = part)).map Prod.fst := by
  -- The last line is taken off, because a line belongs to what is open before it.
  induction lines using List.reverseRecOn with
  | nil => exact ⟨[], rfl, fun part => rfl⟩
  | append_singleton lines line ih =>
      obtain ⟨earlierWithin, lineWithin⟩ := List.forall_mem_append.mp within
      have content_iff : kindOf line = .content ↔ Unmarked line := by
        rw [kindOf_eq_content_iff, and_iff_right (lineWithin line List.mem_cons_self)]
      obtain ⟨sorted, split, sorts⟩ := ih earlierWithin
      by_cases unmarked : Unmarked line
      · cases opened : openPart? lines with
        | none =>
            have nothing := (openPart?_eq_none_iff earlierWithin).mp opened
            refine ⟨sorted, ?_, fun part => ?_⟩
            · simp [split, List.dropWhile_append, nothing, unmarked]
            · simp [linesOf_append, opened, sorts]
        | some part =>
            have something := mt (openPart?_eq_none_iff earlierWithin).mpr
              (opened ▸ Option.some_ne_none part)
            refine ⟨sorted ++ [(line, part)], ?_, fun other => ?_⟩
            · simp [split, List.dropWhile_append, something, unmarked]
            · by_cases same : part = other <;>
                simp [linesOf_append, opened, content_iff, unmarked, sorts, same]
      · refine ⟨sorted, ?_, fun part => ?_⟩
        · rw [split, List.dropWhile_append]
          split_ifs with nothing
          · simp [List.isEmpty_iff.mp nothing, unmarked]
          · simp [unmarked]
        · simp [linesOf_append, content_iff, unmarked, sorts]

end Within

/-- The lines of a text before its first terminator. -/
def blockLines (text : String) : List String :=
  (Text.endedLines text).takeWhile fun line => ¬EndsBlock line

theorem not_endsBlock_of_mem_blockLines {text line : String} (member : line ∈ blockLines text) :
    ¬EndsBlock line := by
  simpa using List.mem_takeWhile_imp member

/-- The lines before the first terminator are all that is read from a text. -/
theorem value_ofText (text : String) :
    (ofText text).value = .ok (ofLines (blockLines text)) := by
  have within : ∀ line ∈ blockLines text, ¬EndsBlock line :=
    fun line => not_endsBlock_of_mem_blockLines
  have parts := List.takeWhile_append_dropWhile (p := fun line => ¬EndsBlock line)
    (l := Text.endedLines text)
  have cut := Text.cutLines_encode text
  change (read (Text.encode text)).value.result = _
  cases behind : (Text.endedLines text).dropWhile fun line => ¬EndsBlock line with
  | nil =>
      rw [behind, List.append_nil] at parts
      rw [← parts] at cut
      rw [(ReadsTo.unterminated cut within).read_eq]
      rfl
  | cons last after =>
      have ends : EndsBlock last := by
        have first := List.head?_dropWhile_not (fun line => ¬EndsBlock line) (Text.endedLines text)
        rw [behind] at first
        simpa using first
      rw [behind] at parts
      rw [← parts, List.map_append, List.map_cons] at cut
      rw [(ReadsTo.terminated cut within ends).read_eq]
      rfl

section Runs

variable {first second : Part} {earlier before firstRun secondRun after : List String}

/-- The lines begin with a heading, unless there are none. -/
def Opens (lines : List String) : Prop :=
  ∀ line ∈ lines.head?, ∃ part, kindOf line = .heading part

theorem openPart?_append_cons {heading : String} {part : Part}
    (isHeading : kindOf heading = .heading part) (lines : List String) :
    openPart? (earlier ++ heading :: lines) = openPart? (heading :: lines) := by
  have headed : headed? heading = some part := headed?_eq_some_iff.mpr isHeading
  simp [openPart?, headed]

/-- What stands before a heading has no effect on the lines behind it. -/
theorem linesOf_append_of_opens (opens : Opens after) (part : Part) :
    linesOf part (earlier ++ after) = linesOf part earlier ++ linesOf part after := by
  cases after with
  | nil => simp [linesOf]
  | cons heading lines =>
      obtain ⟨opened, isHeading⟩ := opens heading rfl
      have alone : linesOf part [heading] = [] := by simp [linesOf, isHeading]
      -- The induction takes the lines off the end, where the reader adds them.
      induction lines using List.reverseRecOn with
      | nil => simp [linesOf_append, alone, isHeading]
      | append_singleton lines line ih =>
          have longer : earlier ++ heading :: (lines ++ [line]) =
              (earlier ++ heading :: lines) ++ [line] := by simp
          have shorter : heading :: (lines ++ [line]) = (heading :: lines) ++ [line] := rfl
          rw [longer, linesOf_append, ih opens, openPart?_append_cons isHeading, shorter,
            linesOf_append, List.append_assoc]

/-- A marker of a part with lines behind it that are no markers. -/
def IsRunOf (part : Part) (lines : List String) : Prop :=
  ∃ marker contents, lines = marker :: contents ∧ Marks part marker ∧
    (∀ line ∈ contents, Unmarked line) ∧ ∀ line ∈ lines, ¬EndsBlock line

theorem IsRunOf.within (isRun : IsRunOf first firstRun) : ∀ line ∈ firstRun, ¬EndsBlock line := by
  obtain ⟨_, _, -, -, -, within⟩ := isRun
  exact within

theorem IsRunOf.opens (isRun : IsRunOf first firstRun) (after : List String) :
    Opens (firstRun ++ after) := by
  obtain ⟨marker, contents, rfl, marks, -, within⟩ := isRun
  rintro line ⟨⟩
  exact ⟨first, kindOf_eq_heading_iff.mpr ⟨within marker List.mem_cons_self, marks⟩⟩

theorem IsRunOf.linesOf_eq (isRun : IsRunOf first firstRun) (part : Part) :
    linesOf part firstRun = if first = part then firstRun.tail else [] := by
  obtain ⟨marker, contents, rfl, marks, unmarked, within⟩ := isRun
  obtain ⟨headWithin, othersWithin⟩ := List.forall_mem_cons.mp within
  have isHeading := kindOf_eq_heading_iff.mpr ⟨headWithin, marks⟩
  have opened : openPart? [marker] = some first := openPart?_append_heading [] isHeading
  have alone : linesOf part [marker] = [] := by simp [linesOf, isHeading]
  have contentLines := linesOf_append_contents [marker]
    (fun line member => kindOf_eq_content_iff.mpr ⟨othersWithin line member, unmarked line member⟩)
    part
  simpa [opened, alone] using contentLines

/-- Neighbouring runs of different parts can change their places. -/
theorem ofLines_exchange (isFirst : IsRunOf first firstRun) (isSecond : IsRunOf second secondRun)
    (different : first ≠ second) (opens : Opens after) :
    ofLines (before ++ (firstRun ++ (secondRun ++ after))) =
      ofLines (before ++ (secondRun ++ (firstRun ++ after))) := by
  have exchange (part : Part) : linesOf part (before ++ (firstRun ++ (secondRun ++ after))) =
      linesOf part (before ++ (secondRun ++ (firstRun ++ after))) := by
    rw [linesOf_append_of_opens (isFirst.opens _), linesOf_append_of_opens (isSecond.opens _),
      linesOf_append_of_opens opens, linesOf_append_of_opens (isSecond.opens _),
      linesOf_append_of_opens (isFirst.opens _), linesOf_append_of_opens opens,
      isFirst.linesOf_eq, isSecond.linesOf_eq]
    split_ifs with isPart isOther
    · exact absurd (isPart.trans isOther.symm) different
    all_goals simp
  rw [ofLines, ofLines, exchange, exchange]

theorem opens_takeWhile (closed : ∀ line ∈ after.head?, EndsBlock line ∨ ¬Unmarked line) :
    Opens (after.takeWhile fun line => ¬EndsBlock line) := by
  intro line member
  rw [List.head?_takeWhile, Option.mem_def, Option.filter_eq_some_iff] at member
  obtain ⟨first, within⟩ := member
  have within : ¬EndsBlock line := of_decide_eq_true within
  cases kind : kindOf line with
  | terminator => exact absurd (kindOf_eq_terminator_iff.mp kind) within
  | heading part => exact ⟨part, rfl⟩
  | content =>
      have marked := (closed line first).resolve_left within
      exact absurd (kindOf_eq_content_iff.mp kind).2 marked

/-- The exchange does not change what is read up to the first terminator. -/
theorem ofLines_takeWhile_exchange (isFirst : IsRunOf first firstRun)
    (isSecond : IsRunOf second secondRun) (different : first ≠ second)
    (closed : ∀ line ∈ after.head?, EndsBlock line ∨ ¬Unmarked line) :
    ofLines ((before ++ (secondRun ++ (firstRun ++ after))).takeWhile fun line =>
        ¬EndsBlock line) =
      ofLines ((before ++ (firstRun ++ (secondRun ++ after))).takeWhile fun line =>
        ¬EndsBlock line) := by
  have opens := opens_takeWhile closed
  have firstWithin : ∀ line ∈ firstRun, decide (¬EndsBlock line) = true := by
    simpa using isFirst.within
  have secondWithin : ∀ line ∈ secondRun, decide (¬EndsBlock line) = true := by
    simpa using isSecond.within
  have cut (lines : List String) : (before ++ lines).takeWhile (fun line => ¬EndsBlock line) =
      if (before.takeWhile fun line => ¬EndsBlock line).length = before.length then
        before ++ lines.takeWhile fun line => ¬EndsBlock line
      else
        before.takeWhile fun line => ¬EndsBlock line :=
    List.takeWhile_append
  rw [cut, cut]
  split_ifs with whole
  · rw [List.takeWhile_append_of_pos secondWithin, List.takeWhile_append_of_pos firstWithin,
      List.takeWhile_append_of_pos firstWithin, List.takeWhile_append_of_pos secondWithin,
      ofLines_exchange isFirst isSecond different opens]
  · rfl

end Runs

/-- The reader of a naming block puts each line where looking back from it to
the nearest marker tells, and nowhere else.  Every line behind the first marker
that is none itself is in one of the two texts, in order.  Neighbouring runs of
different parts can be exchanged if all their lines and the lines before them
are whole. -/
theorem naming_lines_sorted (text : String) :
    (ofText text).value =
        .ok ⟨String.join (linesOf .parsing (blockLines text)),
          String.join (linesOf .generating (blockLines text))⟩ ∧
      (∀ part, linesOf part (blockLines text) =
        ((blockLines text).zipIdx.filter fun entry =>
          Unmarked entry.1 ∧ NearestMarks part ((blockLines text).take entry.2)).map Prod.fst) ∧
      (∃ sorted : List (String × Part),
        sorted.map Prod.fst =
          ((blockLines text).dropWhile fun line => Unmarked line).filter
            (fun line => Unmarked line) ∧
        ∀ part, linesOf part (blockLines text) = (sorted.filter (·.2 = part)).map Prod.fst) ∧
      ∀ before firstRun secondRun rest first second,
        text = String.join (before ++ firstRun ++ secondRun) ++ rest →
        (∀ line ∈ before ++ firstRun ++ secondRun, Text.IsEnded '\n' line.toList) →
        IsRunOf first firstRun → IsRunOf second secondRun → first ≠ second →
        (∀ line ∈ (Text.endedLines rest).head?, EndsBlock line ∨ ¬Unmarked line) →
        (ofText (String.join (before ++ secondRun ++ firstRun) ++ rest)).value =
          (ofText text).value := by
  have within : ∀ line ∈ blockLines text, ¬EndsBlock line :=
    fun line => not_endsBlock_of_mem_blockLines
  refine ⟨value_ofText text, linesOf_eq_filter within, exists_sorted within, ?_⟩
  · rintro before firstRun secondRun rest first second rfl whole isFirst isSecond different closed
    have wholeExchanged : ∀ line ∈ before ++ secondRun ++ firstRun,
        Text.IsEnded '\n' line.toList := by
      intro line member
      refine whole line ?_
      simp only [List.mem_append] at member ⊢
      tauto
    rw [value_ofText, value_ofText, blockLines, blockLines,
      Text.endedLines_join_append whole, Text.endedLines_join_append wholeExchanged]
    simp only [List.append_assoc]
    rw [ofLines_takeWhile_exchange isFirst isSecond different closed]

/-- A block that opens its parsing part twice, and the block with its first two
runs exchanged. -/
theorem naming_lines_sorted_exchanged :
    (∀ line ∈ ["a\n"] ++ ["(parse)\n", "p\n"] ++ ["(generate)\n", "g\n"],
        Text.IsEnded '\n' line.toList) ∧
      IsRunOf .parsing ["(parse)\n", "p\n"] ∧ IsRunOf .generating ["(generate)\n", "g\n"] ∧
      (∀ line ∈ (Text.endedLines "(generate) (parse)\nq\n <end>\nz").head?,
        EndsBlock line ∨ ¬Unmarked line) ∧
      (ofText "a\n(parse)\np\n(generate)\ng\n(generate) (parse)\nq\n <end>\nz").value =
        .ok ⟨"p\nq\n", "g\n"⟩ ∧
      (ofText "a\n(generate)\ng\n(parse)\np\n(generate) (parse)\nq\n <end>\nz").value =
        .ok ⟨"p\nq\n", "g\n"⟩ := by
  have whole : ∀ line ∈ ["a\n"] ++ ["(parse)\n", "p\n"] ++ ["(generate)\n", "g\n"],
      Text.IsEnded '\n' line.toList := by
    simp only [List.cons_append, List.nil_append, List.forall_mem_cons]
    exact ⟨⟨"a".toList, by decide, by decide⟩, ⟨"(parse)".toList, by decide, by decide⟩,
      ⟨"p".toList, by decide, by decide⟩, ⟨"(generate)".toList, by decide, by decide⟩,
      ⟨"g".toList, by decide, by decide⟩, by simp⟩
  have parsing : IsRunOf .parsing ["(parse)\n", "p\n"] :=
    ⟨"(parse)\n", ["p\n"], rfl, by decide +kernel, by decide +kernel, by decide +kernel⟩
  have generating : IsRunOf .generating ["(generate)\n", "g\n"] :=
    ⟨"(generate)\n", ["g\n"], rfl, by decide +kernel, by decide +kernel, by decide +kernel⟩
  have closed : ∀ line ∈ (Text.endedLines "(generate) (parse)\nq\n <end>\nz").head?,
      EndsBlock line ∨ ¬Unmarked line := by
    decide +kernel
  have joined : "a\n(parse)\np\n(generate)\ng\n(generate) (parse)\nq\n <end>\nz" =
      String.join (["a\n"] ++ ["(parse)\n", "p\n"] ++ ["(generate)\n", "g\n"]) ++
        "(generate) (parse)\nq\n <end>\nz" := by
    decide +kernel
  have joinedExchanged :
      String.join (["a\n"] ++ ["(generate)\n", "g\n"] ++ ["(parse)\n", "p\n"]) ++
          "(generate) (parse)\nq\n <end>\nz" =
        "a\n(generate)\ng\n(parse)\np\n(generate) (parse)\nq\n <end>\nz" := by
    decide +kernel
  obtain ⟨reads, -, -, exchange⟩ := naming_lines_sorted
    "a\n(parse)\np\n(generate)\ng\n(generate) (parse)\nq\n <end>\nz"
  have sorted : (ofText
      "a\n(parse)\np\n(generate)\ng\n(generate) (parse)\nq\n <end>\nz").value =
        .ok ⟨"p\nq\n", "g\n"⟩ :=
    reads.trans (by decide +kernel)
  have exchanged := exchange _ _ _ _ .parsing .generating joined whole parsing generating
    (by decide) closed
  rw [joinedExchanged] at exchanged
  exact ⟨whole, parsing, generating, closed, sorted, exchanged.trans sorted⟩

end NamingBlock

end ColumnCode

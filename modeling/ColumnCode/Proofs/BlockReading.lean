import ColumnCode.NamingBlock
import ColumnCode.Proofs.ByteLines

/-!
# Where the reading of a naming block stops

A block is read up to its first terminator.  What it holds depends on the lines
before the terminator only, and what follows the terminator is left for the
next reader, so blocks that stand one behind the other are read one by one.
-/

namespace ColumnCode

namespace NamingBlock

/-- The lines that end a block begin with the terminator behind blanks. -/
def EndsBlock (line : String) : Prop :=
  terminatorMarker.toList <+: (Text.trim line).toList

instance : DecidablePred EndsBlock :=
  fun line => inferInstanceAs (Decidable (terminatorMarker.toList <+: (Text.trim line).toList))

theorem kindOf_eq_terminator_iff {line : String} :
    kindOf line = .terminator ↔ EndsBlock line := by
  unfold kindOf EndsBlock
  rw [Text.toList_trim, ← List.isPrefixOf_iff_prefix]
  split_ifs with ends <;> simp [ends]

/-- The part that a line is the head of. -/
def headed? (line : String) : Option Part :=
  match kindOf line with
  | .heading part => some part
  | _ => none

/-- The part that the last heading among some lines opens. -/
def openPart? (lines : List String) : Option Part :=
  lines.reverse.findSome? headed?

/-- The lines of a part: content with the heading of the part as the nearest
heading before it. -/
def linesOf (part : Part) (lines : List String) : List String :=
  (lines.zipIdx.filter fun entry =>
    kindOf entry.1 = .content ∧ openPart? (lines.take entry.2) = some part).map Prod.fst

/-- The block that some lines before a terminator make up. -/
def ofLines (lines : List String) : NamingBlock where
  parsing := String.join (linesOf .parsing lines)
  generating := String.join (linesOf .generating lines)

section Appending

variable (part : Part) (lines : List String) {line : String}

theorem openPart?_append_heading {opened : Part} (heading : kindOf line = .heading opened) :
    openPart? (lines ++ [line]) = some opened := by
  simp [openPart?, headed?, heading]

theorem openPart?_append_content (content : kindOf line = .content) :
    openPart? (lines ++ [line]) = openPart? lines := by
  simp [openPart?, headed?, content]

theorem linesOf_append :
    linesOf part (lines ++ [line]) =
      linesOf part lines ++
        if kindOf line = .content ∧ openPart? lines = some part then [line] else [] := by
  have earlier : lines.zipIdx.filter (fun entry =>
      kindOf entry.1 = .content ∧ openPart? ((lines ++ [line]).take entry.2) = some part) =
      lines.zipIdx.filter (fun entry =>
        kindOf entry.1 = .content ∧ openPart? (lines.take entry.2) = some part) := by
    refine List.filter_congr fun entry member => ?_
    have bound : entry.2 < lines.length := by
      have below := List.snd_lt_add_of_mem_zipIdx member
      omega
    rw [List.take_append_of_le_length (Nat.le_of_lt bound)]
  have last : List.take lines.length (lines ++ [line]) = lines := by simp
  rw [linesOf, List.zipIdx_append, List.filter_append, List.map_append, earlier, linesOf]
  congr 1
  split_ifs with belongs <;> simp [last, belongs]

theorem ofLines_append_heading {opened : Part} (heading : kindOf line = .heading opened) :
    ofLines (lines ++ [line]) = ofLines lines := by
  simp [ofLines, linesOf_append, heading]

theorem ofLines_append_content (content : kindOf line = .content) :
    ofLines (lines ++ [line]) = (ofLines lines).add line (openPart? lines) := by
  simp only [ofLines, linesOf_append, content, true_and]
  cases opened : openPart? lines with
  | none => simp [add]
  | some part => cases part <;> simp [add]

end Appending

section Steps

variable (block : NamingBlock) (part? : Option Part) {line : String} (rest : List (List UInt8))

theorem readLines_terminator (ends : EndsBlock line) :
    readLines block part? (Text.encode line :: rest) = ⟨[], ⟨.ok block, rest.flatten⟩⟩ := by
  simp only [readLines, Text.decode?_encode, kindOf_eq_terminator_iff.mpr ends]
  rfl

theorem readLines_heading {opened : Part} (heading : kindOf line = .heading opened) :
    readLines block part? (Text.encode line :: rest) = readLines block (some opened) rest := by
  simp only [readLines, Text.decode?_encode, heading]

theorem readLines_content (content : kindOf line = .content) :
    readLines block part? (Text.encode line :: rest) =
      readLines (block.add line part?) part? rest := by
  simp only [readLines, Text.decode?_encode, content]

theorem readLines_undecodable {bytes : List UInt8} (notText : ∀ text, bytes ≠ Text.encode text) :
    readLines block part? (bytes :: rest) = ⟨[], ⟨.error .notText, rest.flatten⟩⟩ := by
  simp only [readLines, Text.decode?_eq_none_iff.mpr notText]
  rfl

end Steps

section Reading

variable {lines : List String}

/-- Reading lines that do not end the block: the block that was read so far and
the open part are always those of the lines before. -/
theorem readLines_append (before : List String) (continues : ∀ line ∈ lines, ¬EndsBlock line)
    (rest : List (List UInt8)) :
    readLines (ofLines before) (openPart? before) (lines.map Text.encode ++ rest) =
      readLines (ofLines (before ++ lines)) (openPart? (before ++ lines)) rest := by
  induction lines generalizing before with
  | nil => simp
  | cons line lines ih =>
      obtain ⟨first, others⟩ := List.forall_mem_cons.mp continues
      have next := ih (before ++ [line]) others
      rw [List.append_assoc, List.singleton_append] at next
      rw [List.map_cons, List.cons_append, ← next]
      cases kind : kindOf line with
      | terminator => exact absurd (kindOf_eq_terminator_iff.mp kind) first
      | heading part =>
          rw [readLines_heading _ _ _ kind, ofLines_append_heading before kind,
            openPart?_append_heading before kind]
      | content =>
          rw [readLines_content _ _ _ kind, ofLines_append_content before kind,
            openPart?_append_content before kind]

theorem readLines_lines (continues : ∀ line ∈ lines, ¬EndsBlock line)
    (rest : List (List UInt8)) :
    readLines empty none (lines.map Text.encode ++ rest) =
      readLines (ofLines lines) (openPart? lines) rest :=
  readLines_append [] continues rest

end Reading

/-- What reading a source comes to, by the first of its lines that ends the
block or is no text. -/
inductive ReadsTo (source : List UInt8) : Logged Reading → Prop
  | terminated {lines : List String} {last : String} {after : List (List UInt8)}
      (cut : Text.cutLines 10 source = lines.map Text.encode ++ Text.encode last :: after)
      (continues : ∀ line ∈ lines, ¬EndsBlock line) (ends : EndsBlock last) :
      ReadsTo source ⟨[], ⟨.ok (ofLines lines), after.flatten⟩⟩
  | undecodable {lines : List String} {last : List UInt8} {after : List (List UInt8)}
      (cut : Text.cutLines 10 source = lines.map Text.encode ++ last :: after)
      (continues : ∀ line ∈ lines, ¬EndsBlock line) (notText : ∀ text, last ≠ Text.encode text) :
      ReadsTo source ⟨[], ⟨.error .notText, after.flatten⟩⟩
  | unterminated {lines : List String}
      (cut : Text.cutLines 10 source = lines.map Text.encode)
      (continues : ∀ line ∈ lines, ¬EndsBlock line) :
      ReadsTo source ⟨[.unterminatedBlock], ⟨.ok (ofLines lines), []⟩⟩

theorem ReadsTo.read_eq {source : List UInt8} {outcome : Logged Reading}
    (readsTo : ReadsTo source outcome) : read source = outcome := by
  cases readsTo with
  | terminated cut continues ends =>
      rw [read, cut, readLines_lines continues, readLines_terminator _ _ _ ends]
  | undecodable cut continues notText =>
      rw [read, cut, readLines_lines continues, readLines_undecodable _ _ _ notText]
  | unterminated cut continues =>
      have all := readLines_lines continues []
      rw [List.append_nil] at all
      rw [read, cut, all]
      rfl

/-- Some lines of bytes are all texts within a block, or they have a first line
that is not. -/
theorem exists_first_stop (lines : List (List UInt8)) :
    ∃ texts : List String, (∀ text ∈ texts, ¬EndsBlock text) ∧
      (lines = texts.map Text.encode ∨
        ∃ last after, lines = texts.map Text.encode ++ last :: after ∧
          ∀ text, last = Text.encode text → EndsBlock text) := by
  induction lines with
  | nil => exact ⟨[], by simp, .inl rfl⟩
  | cons line lines ih =>
      by_cases stops : ∀ text, line = Text.encode text → EndsBlock text
      · exact ⟨[], by simp, .inr ⟨line, lines, rfl, stops⟩⟩
      · push Not at stops
        obtain ⟨text, rfl, within⟩ := stops
        obtain ⟨texts, continues, rfl | ⟨last, after, rfl, stops⟩⟩ := ih
        · exact ⟨text :: texts, List.forall_mem_cons.mpr ⟨within, continues⟩, .inl rfl⟩
        · exact ⟨text :: texts, List.forall_mem_cons.mpr ⟨within, continues⟩,
            .inr ⟨last, after, rfl, stops⟩⟩

theorem exists_readsTo (source : List UInt8) : ∃ outcome, ReadsTo source outcome := by
  obtain ⟨texts, continues, cut | ⟨last, after, cut, stops⟩⟩ :=
    exists_first_stop (Text.cutLines 10 source)
  · exact ⟨_, .unterminated cut continues⟩
  · by_cases isText : ∃ text, last = Text.encode text
    · obtain ⟨text, rfl⟩ := isText
      exact ⟨_, .terminated cut continues (stops text rfl)⟩
    · exact ⟨_, .undecodable cut continues (not_exists.mp isText)⟩

theorem read_eq_iff {source : List UInt8} {outcome : Logged Reading} :
    read source = outcome ↔ ReadsTo source outcome := by
  constructor
  · rintro rfl
    obtain ⟨outcome, readsTo⟩ := exists_readsTo source
    rwa [readsTo.read_eq]
  · exact ReadsTo.read_eq

/-- The bytes of one block, its terminator included. -/
def IsBlock (source : List UInt8) (block : NamingBlock) : Prop :=
  ∃ lines last, Text.cutLines 10 source = lines.map Text.encode ++ [Text.encode last] ∧
    (∀ line ∈ lines, ¬EndsBlock line) ∧ EndsBlock last ∧ source.getLast? = some 10 ∧
    block = ofLines lines

/-- A block is read to its end whatever stands behind it. -/
theorem IsBlock.read_append {source : List UInt8} {block : NamingBlock}
    (isBlock : IsBlock source block) (rest : List UInt8) :
    read (source ++ rest) = ⟨[], ⟨.ok block, rest⟩⟩ := by
  obtain ⟨lines, last, cut, continues, ends, newlineLast, rfl⟩ := isBlock
  have cutAll : Text.cutLines 10 (source ++ rest) =
      lines.map Text.encode ++ Text.encode last :: Text.cutLines 10 rest := by
    rw [Text.cutLines_append_of_getLast? newlineLast, cut, List.append_assoc]
    rfl
  have readsTo := ReadsTo.terminated cutAll continues ends
  rw [readsTo.read_eq, Text.flatten_cutLines]

/-- Read a number of blocks one behind the other, each from where the one before
stopped. -/
def readMany : Nat → List UInt8 → Logged (List (Except FileFault NamingBlock) × List UInt8)
  | 0, bytes => pure ([], bytes)
  | count + 1, bytes => do
      let first ← read bytes
      let (others, unread) ← readMany count first.unread
      return (first.result :: others, unread)

theorem readMany_blocks {sources : List (List UInt8)} {blocks : List NamingBlock}
    (areBlocks : List.Forall₂ IsBlock sources blocks) (rest : List UInt8) :
    readMany sources.length (sources.flatten ++ rest) = ⟨[], (blocks.map .ok, rest)⟩ := by
  induction areBlocks with
  | nil => rfl
  | @cons source block sources blocks isBlock _ ih =>
      have first := isBlock.read_append (sources.flatten ++ rest)
      rw [List.length_cons, List.flatten_cons, List.append_assoc, readMany, first]
      change (readMany sources.length (sources.flatten ++ rest) >>= fun (others, unread) =>
        pure (Except.ok block :: others, unread)) = _
      rw [ih]
      rfl

/-- Reading stops behind the first line that ends the block or is no text: the
lines before it make up the block, and the bytes behind it stay unread.  A
source without such a line is read whole and reported as unterminated.  Blocks
that stand one behind the other are therefore read one by one. -/
theorem read_stops_at_first_end :
    (∀ source outcome, read source = outcome ↔ ReadsTo source outcome) ∧
      ∀ sources blocks rest, List.Forall₂ IsBlock sources blocks →
        readMany sources.length (sources.flatten ++ rest) = ⟨[], (blocks.map .ok, rest)⟩ :=
  ⟨fun _ _ => read_eq_iff, fun _ _ rest areBlocks => readMany_blocks areBlocks rest⟩

/-- Two blocks in front of a byte that no text begins with. -/
theorem read_stops_at_first_end_before_bytes :
    List.Forall₂ IsBlock
        [Text.encode "(parse)\na\n<end>\n", Text.encode "(generate)\nb\n <end x\n"]
        [⟨"a\n", ""⟩, ⟨"", "b\n"⟩] ∧
      readMany 2 (Text.encode "(parse)\na\n<end>\n" ++
          (Text.encode "(generate)\nb\n <end x\n" ++ [255])) =
        ⟨[], ([.ok ⟨"a\n", ""⟩, .ok ⟨"", "b\n"⟩], [255])⟩ := by
  have first : IsBlock (Text.encode "(parse)\na\n<end>\n") ⟨"a\n", ""⟩ :=
    ⟨["(parse)\n", "a\n"], "<end>\n", by decide +kernel⟩
  have second : IsBlock (Text.encode "(generate)\nb\n <end x\n") ⟨"", "b\n"⟩ :=
    ⟨["(generate)\n", "b\n"], " <end x\n", by decide +kernel⟩
  have areBlocks := List.Forall₂.cons first (.cons second .nil)
  refine ⟨areBlocks, ?_⟩
  have reads := read_stops_at_first_end.2 _ _ [255] areBlocks
  simpa using reads

end NamingBlock

end ColumnCode

import ColumnCode.Proofs.SourceRendering
import Mathlib.Algebra.BigOperators.Group.Finset.Basic
import Mathlib.Data.List.Forall2
import Mathlib.Logic.Relation

/-!
# Spacing does not count

However the lines of a source are indented, padded or ended, the source is read
alike, since every line is trimmed before it is read.  Blank lines only move the
lines behind them further down, so a failure names its line by a number that
grows with the blank lines put before it.
-/

namespace ColumnCode

open Relation (EqvGen)

namespace Text

/-- A line with blanks put before it or behind it.  A newline would end the
line, so it is none of them. -/
inductive Padded (line : List Char) : List Char → Prop
  | front {blanks : List Char} (areBlanks : ∀ character ∈ blanks, isBlank character = true)
      (unbroken : '\n' ∉ blanks) : Padded line (blanks ++ line)
  | back {blanks : List Char} (areBlanks : ∀ character ∈ blanks, isBlank character = true)
      (unbroken : '\n' ∉ blanks) : Padded line (line ++ blanks)

/-- Two texts whose lines differ only in blanks that were added or removed at
their ends, any number of times. -/
def Respaced (text other : String) : Prop :=
  List.Forall₂ (EqvGen Padded) (text.toList.splitOn '\n') (other.toList.splitOn '\n')

/-- A line with nothing but blanks in it. -/
def IsBlankLine (line : List Char) : Prop :=
  '\n' ∉ line ∧ ∀ character ∈ line, isBlank character = true

theorem dropBlanks_of_padded {line other : List Char} (padded : Padded line other) :
    dropBlanks line = dropBlanks other := by
  cases padded with
  | front areBlanks _ => rw [dropBlanks, dropBlanks, List.dropWhile_append_of_pos areBlanks]
  | back areBlanks _ => exact (dropBlanks_append_blanks line areBlanks).symm

theorem trimmed_of_eqvGen {line other : List Char} (same : EqvGen Padded line other) :
    trimmed line = trimmed other := by
  induction same with
  | rel line other padded => exact congrArg String.ofList (dropBlanks_of_padded padded)
  | refl line => rfl
  | symm line other _ ih => exact ih.symm
  | trans line middle other _ _ ihFront ihBack => exact ihFront.trans ihBack

theorem trimmed_of_isBlankLine {line : List Char} (blank : IsBlankLine line) :
    trimmed line = "" := by
  have dropped := dropBlanks_append_blanks [] blank.2
  rw [trimmed, ← List.nil_append line, dropped]
  rfl

theorem pieces_of_respaced {text other : String} (respaced : Respaced text other) :
    pieces text = pieces other := by
  rw [← List.forall₂_eq_eq_eq, pieces, pieces, List.forall₂_map_left_iff,
    List.forall₂_map_right_iff]
  exact respaced.imp fun line other => trimmed_of_eqvGen

theorem newline_not_mem_splitOn (characters : List Char) :
    ∀ line ∈ characters.splitOn '\n', '\n' ∉ line := by
  induction characters with
  | nil => simp
  | cons head rest ih =>
      rw [List.splitOn_cons_eq_if_modifyHead]
      obtain ⟨first, others, lines⟩ :=
        List.exists_cons_of_ne_nil (List.splitOn_ne_nil '\n' rest)
      rw [lines] at ih ⊢
      split
      next => simpa using ih
      next different =>
        have notNewline : '\n' ≠ head := by
          rintro rfl
          exact different rfl
        simpa [notNewline] using ih

/-- A carriage return before each newline is a blank behind each line but the
last. -/
theorem respaced_withReturns (text : String) : Respaced text (withReturns text) := by
  -- The induction takes the text up to its first newline off the front.
  by_cases broken : '\n' ∈ text.toList
  · obtain ⟨line, rest, split_eq, unbroken⟩ := List.eq_append_cons_of_mem broken
    have text_eq : text = String.ofList line ++ "\n" ++ String.ofList rest := by
      rw [← String.toList_inj, split_eq]
      simp
    have shorter : (String.ofList rest).toList.length < text.toList.length := by
      rw [split_eq, String.toList_ofList, List.length_append, List.length_cons]
      omega
    have others := respaced_withReturns (String.ofList rest)
    have padded : Padded line (line ++ ['\r']) :=
      .back (List.all_eq_true.mp (by decide)) (by decide)
    have lineReturn : '\n' ∉ line ++ ['\r'] := by simp [unbroken]
    have returns : (withReturns text).toList =
        (line ++ ['\r']) ++ '\n' :: (withReturns (String.ofList rest)).toList := by
      rw [text_eq, withReturns_append, withReturns_append,
        withReturns_of_unbroken (by simpa using unbroken)]
      simp [withReturns]
    unfold Respaced at others ⊢
    rw [returns, split_eq, List.splitOn_append_cons_self_of_not_mem unbroken,
      List.splitOn_append_cons_self_of_not_mem lineReturn]
    rw [String.toList_ofList] at others
    exact .cons (.rel _ _ padded) others
  · rw [withReturns_of_unbroken broken]
    exact List.forall₂_same.mpr fun line _ => .refl line
termination_by text.toList.length

/-- Further lines put among some lines: those of the first gap before the first
line, and those of the gap behind it before the next one. -/
def spread {line : Type} (gaps : Nat → List line) : List line → List line
  | [] => gaps 0
  | head :: rest => gaps 0 ++ head :: spread (fun place => gaps (place + 1)) rest

/-- A text with further lines put among its lines. -/
def spreadLines (gaps : Nat → List (List Char)) (text : String) : String :=
  String.ofList (['\n'].intercalate (spread gaps (text.toList.splitOn '\n')))

theorem map_spread {first second : Type} (view : first → second) (gaps : Nat → List first)
    (lines : List first) :
    (spread gaps lines).map view =
      spread (fun place => (gaps place).map view) (lines.map view) := by
  induction lines generalizing gaps with
  | nil => rfl
  | cons head rest ih => simp [spread, ih]

theorem forall_mem_spread {line : Type} {property : line → Prop} {gaps : Nat → List line}
    {lines : List line} (inGaps : ∀ place, ∀ line ∈ gaps place, property line)
    (inLines : ∀ line ∈ lines, property line) : ∀ line ∈ spread gaps lines, property line := by
  induction lines generalizing gaps with
  | nil => exact inGaps 0
  | cons head rest ih =>
      obtain ⟨ofHead, ofRest⟩ := List.forall_mem_cons.mp inLines
      intro line member
      rcases List.mem_append.mp member with inGap | inRest
      · exact inGaps 0 line inGap
      · rcases List.mem_cons.mp inRest with rfl | inRest
        · exact ofHead
        · exact ih (fun place => inGaps (place + 1)) ofRest line inRest

theorem spread_ne_nil {line : Type} (gaps : Nat → List line) {lines : List line}
    (nonempty : lines ≠ []) : spread gaps lines ≠ [] := by
  cases lines with
  | nil => exact absurd rfl nonempty
  | cons head rest => simp [spread]

theorem pieces_spreadLines {gaps : Nat → List (List Char)}
    (areBlank : ∀ place, ∀ line ∈ gaps place, IsBlankLine line) (text : String) :
    pieces (spreadLines gaps text) =
      spread (fun place => (gaps place).map trimmed) (pieces text) := by
  have unbroken : ∀ line ∈ spread gaps (text.toList.splitOn '\n'), '\n' ∉ line :=
    forall_mem_spread (fun place line member => (areBlank place line member).1)
      (newline_not_mem_splitOn text.toList)
  have nonempty : spread gaps (text.toList.splitOn '\n') ≠ [] :=
    spread_ne_nil gaps (List.splitOn_ne_nil '\n' text.toList)
  rw [pieces, spreadLines, String.toList_ofList, List.splitOn_intercalate '\n' unbroken nonempty,
    map_spread, pieces]

end Text

namespace Source

open Text (spread)

theorem numbered_blanks {lines : List String} (areBlank : ∀ line ∈ lines, line = "")
    (first : Nat) : numbered lines first = [] := by
  induction lines generalizing first with
  | nil => rfl
  | cons line lines ih =>
      obtain ⟨blank, others⟩ := List.forall_mem_cons.mp areBlank
      rw [blank, numbered_blank, ih others]

theorem le_of_mem_numbered {lines : List String} {first : Nat} {entry : String × Nat}
    (member : entry ∈ numbered lines first) : first ≤ entry.2 :=
  List.le_snd_of_mem_zipIdx (List.mem_filter.mp member).1

/-- Blank lines are not read, but they are counted. -/
theorem numbered_spread {gaps : Nat → List String}
    (areBlank : ∀ place, ∀ line ∈ gaps place, line = "") (lines : List String)
    (offset first : Nat) :
    numbered (spread gaps lines) (offset + first) =
      (numbered lines first).map (renumber fun number => offset + number +
        ∑ place ∈ Finset.range (number + 1 - first), (gaps place).length) := by
  induction lines generalizing gaps offset first with
  | nil => exact numbered_blanks (areBlank 0) (offset + first)
  | cons line lines ih =>
      have others : numbered (spread (fun place => gaps (place + 1)) lines)
          (offset + first + (gaps 0).length + 1) =
          (numbered lines (first + 1)).map (renumber fun number => offset + number +
            ∑ place ∈ Finset.range (number + 1 - first), (gaps place).length) := by
        have behind := ih (fun place => areBlank (place + 1)) (offset + (gaps 0).length) (first + 1)
        rw [show offset + first + (gaps 0).length + 1 = offset + (gaps 0).length + (first + 1) by
          omega, behind]
        refine List.map_congr_left fun entry member => ?_
        have bound := le_of_mem_numbered member
        have places : entry.2 + 1 - first = entry.2 + 1 - (first + 1) + 1 := by omega
        simp only [renumber, places, Finset.sum_range_succ', Prod.mk.injEq, true_and]
        omega
      rw [spread, numbered_append, numbered_blanks (areBlank 0), List.nil_append]
      by_cases blank : line = ""
      · rw [blank, numbered_blank, numbered_blank, others]
      · rw [numbered_cons blank, numbered_cons blank, others, List.map_cons]
        simp [renumber]

/-- What is read from a source with blank lines among its lines are the lines of
the source, each further down by the blank lines before it. -/
theorem entries_spreadLines {gaps : Nat → List (List Char)}
    (areBlank : ∀ place, ∀ line ∈ gaps place, Text.IsBlankLine line) (text : String) :
    entries (Text.spreadLines gaps text) =
      (entries text).map (renumber fun number =>
        number + ∑ place ∈ Finset.range number, (gaps place).length) := by
  have trimmedBlank : ∀ place, ∀ line ∈ (gaps place).map Text.trimmed, line = "" := by
    intro place line member
    obtain ⟨raw, isRaw, rfl⟩ := List.mem_map.mp member
    exact Text.trimmed_of_isBlankLine (areBlank place raw isRaw)
  have counted := numbered_spread trimmedBlank (Text.pieces text) 0 1
  rw [entries_eq_pieces, entries_eq_pieces, Text.pieces_spreadLines areBlank]
  simpa using counted

theorem read_of_respaced {text other : String} (respaced : Text.Respaced text other) :
    read other = read text := by
  rw [read, entries_eq_pieces, ← Text.pieces_of_respaced respaced, ← entries_eq_pieces, read]

/-- A source is read alike, with the same events, when blanks are added or
removed at the ends of its lines, and so it is with line ends of two characters.
Blank lines among its lines do not change its branches.  A failure, which always
names a line, then names it by a number that is larger by the blank lines put
before that line. -/
theorem spacing_immaterial (text : String) :
    (∀ other, Text.Respaced text other → read other = read text) ∧
      read (Text.withReturns text) = read text ∧
      ∀ gaps : Nat → List (List Char),
        (∀ place, ∀ line ∈ gaps place, Text.IsBlankLine line) →
        (∀ branches, (read text).value = .ok branches →
          (read (Text.spreadLines gaps text)).value = .ok branches) ∧
        ∀ failure, (read text).value = .error failure →
          ∃ line detail, failure = .source line detail ∧
            (read (Text.spreadLines gaps text)).value =
              .error (.source
                (line + ∑ place ∈ Finset.range line, (gaps place).length) detail) := by
  refine ⟨fun other => read_of_respaced, read_of_respaced (Text.respaced_withReturns text), ?_⟩
  intro gaps areBlank
  have moved : (read (Text.spreadLines gaps text)).value =
      (read text).value.mapError (Failure.renumber fun number =>
        number + ∑ place ∈ Finset.range number, (gaps place).length) := by
    rw [read, entries_spreadLines areBlank, value_readEntries_renumber, read]
  constructor
  · intro branches accepted
    rw [moved, accepted]
    rfl
  · intro failure failed
    obtain ⟨line, detail, rfl⟩ := exists_line_of_error failed
    refine ⟨line, detail, rfl, ?_⟩
    rw [moved, failed]
    rfl

/-- A rejected second line: padded, with a line end of two characters, and with
blank lines before the first line and the second. -/
theorem spacing_immaterial_padded :
    Text.Respaced "pt/F\nx/Q" "\tpt/F \r\n\u00A0x/Q" ∧
      (∀ place, ∀ line ∈ (if place < 2 then [[' ']] else [] : List (List Char)),
        Text.IsBlankLine line) ∧
      (read "pt/F\nx/Q").value = .error (.source 2 "'x/Q' unknown type code 'Q'") ∧
      (read "pt/F").value = .ok [⟨"pt", .float32, .ofTokens [], ⟨false, false⟩, "", ""⟩] ∧
      read "\tpt/F \r\n\u00A0x/Q" = read "pt/F\nx/Q" ∧
      (read " \npt/F\n \nx/Q").value = .error (.source 4 "'x/Q' unknown type code 'Q'") ∧
      (read " \npt/F\n ").value =
        .ok [⟨"pt", .float32, .ofTokens [], ⟨false, false⟩, "", ""⟩] := by
  have respaced : Text.Respaced "pt/F\nx/Q" "\tpt/F \r\n\u00A0x/Q" := by
    have first : EqvGen Text.Padded "pt/F".toList "\tpt/F \r".toList :=
      .trans _ "\tpt/F".toList _
        (.rel _ _ (@Text.Padded.front _ ['\t'] (List.all_eq_true.mp (by decide)) (by decide)))
        (.rel _ _ (@Text.Padded.back _ [' ', '\r'] (List.all_eq_true.mp (by decide)) (by decide)))
    have second : EqvGen Text.Padded "x/Q".toList "\u00A0x/Q".toList :=
      .rel _ _ (@Text.Padded.front _ ['\u00A0'] (List.all_eq_true.mp (by decide)) (by decide))
    exact .cons first (.cons second .nil)
  have areBlank : ∀ place, ∀ line ∈ (if place < 2 then [[' ']] else [] : List (List Char)),
      Text.IsBlankLine line := by
    intro place line member
    split at member
    · obtain rfl := List.mem_singleton.mp member
      exact ⟨by decide, List.all_eq_true.mp (by decide)⟩
    · simp at member
  have failed : (read "pt/F\nx/Q").value =
      .error (.source 2 "'x/Q' unknown type code 'Q'") := by
    decide +kernel
  have accepted : (read "pt/F").value =
      .ok [⟨"pt", .float32, .ofTokens [], ⟨false, false⟩, "", ""⟩] := by
    decide +kernel
  obtain ⟨line, detail, same, moved⟩ :=
    ((spacing_immaterial "pt/F\nx/Q").2.2 _ areBlank).2 _ failed
  obtain ⟨rfl, rfl⟩ := Failure.source.inj same
  exact ⟨respaced, areBlank, failed, accepted, (spacing_immaterial _).1 _ respaced, moved,
    ((spacing_immaterial "pt/F").2.2 _ areBlank).1 _ accepted⟩

end Source

end ColumnCode

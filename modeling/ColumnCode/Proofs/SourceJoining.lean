import ColumnCode.Proofs.SourceLines

/-!
# Reading two sources as one

When two sources are joined by a newline, the lines of both are read as before:
those of the first with their numbers, and those of the second with numbers that
go on behind the first.  The newlines of the first source say how far.
-/

namespace ColumnCode

/-- The failure with another number for its line, if it names one. -/
def Failure.renumber (number : Nat → Nat) : Failure → Failure
  | .source line detail => .source (number line) detail
  | other => other

namespace Source

/-- A numbered line with another number. -/
def renumber (number : Nat → Nat) (entry : String × Nat) : String × Nat :=
  (entry.1, number entry.2)

theorem numbered_append (lines others : List String) (first : Nat) :
    numbered (lines ++ others) first =
      numbered lines first ++ numbered others (first + lines.length) := by
  rw [numbered, List.zipIdx_append, List.filter_append, numbered, numbered]

/-- Lines that are numbered from further up. -/
theorem numbered_add (lines : List String) (offset first : Nat) :
    numbered lines (offset + first) = (numbered lines first).map (renumber (offset + ·)) := by
  induction lines generalizing first with
  | nil => rfl
  | cons line lines ih =>
      by_cases blank : line = ""
      · rw [blank, numbered_blank, numbered_blank, Nat.add_assoc, ih]
      · rw [numbered_cons blank, numbered_cons blank, Nat.add_assoc, ih]
        rfl

/-- The number of the last line before the newline that joins another source. -/
def lastLine (text : String) : Nat :=
  text.toList.count '\n' + 1

/-- The lines of joined sources are those of the first and, further down, those
of the second. -/
theorem entries_join (first second : String) :
    entries (first ++ "\n" ++ second) =
      entries first ++ (entries second).map (renumber (lastLine first + ·)) := by
  rw [entries_eq_pieces, Text.pieces_join, numbered_append, Text.length_pieces, ← lastLine,
    Nat.add_comm 1, numbered_add, entries_eq_pieces, entries_eq_pieces]

theorem value_readEntries_append (entries others : List (String × Nat)) :
    (readEntries (entries ++ others)).value =
      (readEntries entries).value.bind fun branches =>
        (readEntries others).value.map (branches ++ ·) := by
  induction entries with
  | nil =>
      cases others_eq : (readEntries others).value <;>
        simp [readEntries, others_eq, Except.bind, Except.map]
  | cons entry entries ih =>
      obtain ⟨line, number⟩ := entry
      cases read : (Branch.read line).value with
      | error rejection =>
          rw [List.cons_append, value_readEntries_of_error read, value_readEntries_of_error read]
          rfl
      | ok branch =>
          rw [List.cons_append, value_readEntries_of_ok read, value_readEntries_of_ok read, ih]
          cases (readEntries entries).value with
          | error failure => rfl
          | ok branches => cases (readEntries others).value <;> rfl

/-- The numbers of the lines are found in a failure and nowhere else. -/
theorem value_readEntries_renumber (entries : List (String × Nat)) (number : Nat → Nat) :
    (readEntries (entries.map (renumber number))).value =
      (readEntries entries).value.mapError (Failure.renumber number) := by
  induction entries with
  | nil => rfl
  | cons entry entries ih =>
      obtain ⟨line, place⟩ := entry
      rw [List.map_cons, renumber]
      cases read : (Branch.read line).value with
      | error rejection =>
          rw [value_readEntries_of_error read, value_readEntries_of_error read]
          rfl
      | ok branch =>
          rw [value_readEntries_of_ok read, value_readEntries_of_ok read, ih]
          cases (readEntries entries).value <;> rfl

/-- Reading joined sources is reading the first and then the second. -/
theorem value_read_join (first second : String) :
    (read (first ++ "\n" ++ second)).value =
      (read first).value.bind fun branches =>
        ((read second).value.mapError (Failure.renumber (lastLine first + ·))).map
          (branches ++ ·) := by
  rw [read, entries_join, value_readEntries_append, value_readEntries_renumber, read, read]

/-- A source fails with the number of a line and nothing else. -/
theorem exists_line_of_error {text : String} {failure : Failure}
    (failed : (read text).value = .error failure) :
    ∃ line detail, failure = .source line detail := by
  rw [read, entries_eq_numbered, value_readEntries_eq_error_iff] at failed
  obtain ⟨before, line, reason, -, rfl⟩ := failed
  exact ⟨_, _, rfl⟩

/-- Two sources joined by a newline give the branches of both.  A failure, which
always names a line, stays as it is in the first source whatever follows, and a
failure of the second source is found further down, by the lines of the first. -/
theorem join_sources (first second : String) :
    (∀ branches more : List Branch,
      (read first).value = .ok branches → (read second).value = .ok more →
        (read (first ++ "\n" ++ second)).value = .ok (branches ++ more)) ∧
      (∀ failure, (read first).value = .error failure →
        (read (first ++ "\n" ++ second)).value = .error failure) ∧
      (∀ (branches : List Branch) (line : Nat) (detail : String),
        (read first).value = .ok branches → (read second).value = .error (.source line detail) →
          (read (first ++ "\n" ++ second)).value =
            .error (.source (first.toList.count '\n' + 1 + line) detail)) ∧
      ∀ text failure, (read text).value = .error failure →
        ∃ line detail, failure = .source line detail := by
  refine ⟨?_, ?_, ?_, fun text failure failed => exists_line_of_error failed⟩
  · intro branches more readFirst readSecond
    rw [value_read_join, readFirst, readSecond]
    rfl
  · intro failure failed
    rw [value_read_join, failed]
    rfl
  · intro branches line detail readFirst failed
    rw [value_read_join, readFirst, failed]
    rfl

/-- A first source that ends in a carriage return, before a second one that
begins with a newline. -/
theorem join_sources_at_return :
    (read "pt/F\n \r").value = .ok [⟨"pt", .float32, .ofTokens [], ⟨false, false⟩, "", ""⟩] ∧
      (read "\neta/D").value = .ok [⟨"eta", .float64, .ofTokens [], ⟨false, false⟩, "", ""⟩] ∧
      (read "\n\nx/Q").value = .error (.source 3 "'x/Q' unknown type code 'Q'") ∧
      (read ("pt/F\n \r" ++ "\n" ++ "\neta/D")).value =
        .ok ([⟨"pt", .float32, .ofTokens [], ⟨false, false⟩, "", ""⟩] ++
          [⟨"eta", .float64, .ofTokens [], ⟨false, false⟩, "", ""⟩]) ∧
      (read ("\n\nx/Q" ++ "\n" ++ "pt/F\n \r")).value =
        .error (.source 3 "'x/Q' unknown type code 'Q'") ∧
      (read ("pt/F\n \r" ++ "\n" ++ "\n\nx/Q")).value =
        .error (.source 5 "'x/Q' unknown type code 'Q'") := by
  have first : (read "pt/F\n \r").value =
      .ok [⟨"pt", .float32, .ofTokens [], ⟨false, false⟩, "", ""⟩] := by
    decide +kernel
  have second : (read "\neta/D").value =
      .ok [⟨"eta", .float64, .ofTokens [], ⟨false, false⟩, "", ""⟩] := by
    decide +kernel
  have failed : (read "\n\nx/Q").value = .error (.source 3 "'x/Q' unknown type code 'Q'") := by
    decide +kernel
  exact ⟨first, second, failed, (join_sources _ _).1 _ _ first second,
    (join_sources _ "pt/F\n \r").2.1 _ failed, (join_sources _ _).2.2.1 _ _ _ first failed⟩

end Source

end ColumnCode

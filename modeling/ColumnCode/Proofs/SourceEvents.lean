import ColumnCode.Proofs.SourceRendering

/-!
# What the reading of a source reports

Every line that is accepted is reported once, after one warning for each of its
modifier letters that has no meaning.  A line that is rejected is reported
without any warning, and nothing is reported behind it.  So the log of a source
tells its accepted lines, and the line that its failure names.
-/

namespace ColumnCode

/-- What a log shows of an event, apart from who reported it. -/
structure LogRecord where
  level : Level
  message : String
  details : List (String × Detail)
  deriving DecidableEq, Repr

def Event.record (event : Event) : LogRecord :=
  ⟨event.level, event.message, event.details⟩

namespace Branch

theorem Rejects.read_eq {line : String} {reason : Reason} (rejects : Rejects line reason) :
    read line = ⟨[], .error (.ofLine line reason)⟩ := by
  cases rejects with
  | grammar unread =>
      simp only [read, unread]
      rfl
  | unknownType captured unknown =>
      simp only [read, captured, ofDefinition_eq_error_iff.mpr ⟨unknown, rfl⟩]
      rfl

/-- What an accepted line means, and what it is reported with, is told by what is
captured from it. -/
theorem read_of_captured {line : String} {definition : Definition} {branch : Branch}
    (captured : Definition.ofLine? line = some definition)
    (accepted : (read line).value = .ok branch) :
    ofDefinition definition = .ok branch ∧ definition.name = branch.name ∧
      read line = ⟨warnings definition, .ok branch⟩ := by
  obtain ⟨other, capturedOther, meant⟩ := value_read_eq_ok_iff.mp accepted
  obtain rfl : definition = other := Option.some.inj (captured.symm.trans capturedOther)
  have name : definition.name = branch.name := by
    obtain ⟨scalar, -, rfl⟩ := ofDefinition_eq_ok_iff.mp meant
    rfl
  refine ⟨meant, name, ?_⟩
  simp only [read, captured, meant, bind, pure, Logged.report, List.append_nil]

end Branch

namespace Source

/-- A numbered line that is accepted, with what is captured from it. -/
structure AcceptedLine where
  line : String
  number : Nat
  definition : Definition
  branch : Branch
  captured : Definition.ofLine? line = some definition
  accepted : (Branch.read line).value = .ok branch

namespace AcceptedLine

def entry (accepted : AcceptedLine) : String × Nat :=
  (accepted.line, accepted.number)

/-- One warning for each modifier letter without a meaning, in the order in which
they are written. -/
def warnings (accepted : AcceptedLine) : List LogRecord :=
  (accepted.definition.modifiers.toList.filter fun letter => letter != '!' && letter != 'm').map
    fun letter => {
      level := .warn
      message := "ignoring unknown modifier"
      details :=
        [("branch", .quoted accepted.branch.name), ("modifier", .plain (String.singleton letter))] }

def acceptance (accepted : AcceptedLine) : LogRecord where
  level := .debug
  message := "accepted branch definition"
  details := [("line", .number accepted.number), ("branch", .quoted accepted.branch.name)]

def records (accepted : AcceptedLine) : List LogRecord :=
  accepted.warnings ++ [accepted.acceptance]

end AcceptedLine

def rejection (number : Nat) (reason : Reason) : LogRecord where
  level := .debug
  message := "rejected branch definition"
  details := [("line", .number number), ("reason", .plain reason.text)]

/-- The course of reading numbered lines, with its records and its result: all of
them are accepted, or they are accepted until one is rejected. -/
inductive Course (entries : List (String × Nat)) (lines : List AcceptedLine) :
    List LogRecord → Except Failure (List Branch) → Prop
  | throughout (all : entries = lines.map AcceptedLine.entry) :
      Course entries lines (lines.flatMap AcceptedLine.records)
        (.ok (lines.map AcceptedLine.branch))
  | untilRejected {line : String} {number : Nat} {reason : Reason} {after : List (String × Nat)}
      (stops : entries = lines.map AcceptedLine.entry ++ (line, number) :: after)
      (rejects : Branch.Rejects line reason) :
      Course entries lines (lines.flatMap AcceptedLine.records ++ [rejection number reason])
        (.error (.source number ("'" ++ line ++ "' " ++ reason.text)))

section Reading

variable {entries : List (String × Nat)} {lines : List AcceptedLine} {records : List LogRecord}
  {result : Except Failure (List Branch)}

theorem Course.cons (accepted : AcceptedLine) (course : Course entries lines records result) :
    Course (accepted.entry :: entries) (accepted :: lines) (accepted.records ++ records)
      (result.map (accepted.branch :: ·)) := by
  cases course with
  | throughout all =>
      have longer : Course (accepted.entry :: entries) (accepted :: lines) _ _ :=
        .throughout (by rw [all, List.map_cons])
      simpa [Except.map] using longer
  | untilRejected stops rejects =>
      have longer : Course (accepted.entry :: entries) (accepted :: lines) _ _ :=
        .untilRejected (by rw [stops, List.map_cons, List.cons_append]) rejects
      simpa [Except.map] using longer

/-- The events of an accepted line are shown by its records. -/
theorem AcceptedLine.records_eq (accepted : AcceptedLine) :
    ((Branch.read accepted.line).events ++
        [Event.accepted accepted.number accepted.branch.name]).map Event.record =
      accepted.records := by
  obtain ⟨-, name, read⟩ := Branch.read_of_captured accepted.captured accepted.accepted
  rw [read, List.map_append, Branch.warnings, name, List.map_map]
  rfl

theorem exists_course (trimmed : ∀ entry ∈ entries, Text.trimEnd entry.1 = entry.1) :
    ∃ lines, Course entries lines ((readEntries entries).events.map Event.record)
      (readEntries entries).value := by
  induction entries with
  | nil => exact ⟨[], .throughout rfl⟩
  | cons entry entries ih =>
      obtain ⟨line, number⟩ := entry
      obtain ⟨trimmedLine, trimmedOthers⟩ := List.forall_mem_cons.mp trimmed
      cases read : (Branch.read line).value with
      | error cause =>
          obtain ⟨reason, rejects, rfl⟩ := Branch.value_read_eq_error_iff.mp read
          have stopped : readEntries ((line, number) :: entries) =
              ⟨[.rejected number reason],
                .error (.source number ("'" ++ line ++ "' " ++ reason.text))⟩ := by
            simp only [readEntries, rejects.read_eq, bind, pure, Logged.report, List.nil_append,
              List.append_nil, Rejection.text, Rejection.ofLine, trimmedLine]
          rw [stopped]
          exact ⟨[], .untilRejected rfl rejects⟩
      | ok branch =>
          obtain ⟨definition, captured, -⟩ := Branch.value_read_eq_ok_iff.mp read
          obtain ⟨lines, course⟩ := ih trimmedOthers
          let accepted : AcceptedLine := ⟨line, number, definition, branch, captured, read⟩
          have events : Branch.read line = ⟨(Branch.read line).events, .ok branch⟩ := by
            rw [← read]
          have shown := accepted.records_eq
          rw [readEntries_of_read events, List.append_cons, List.map_append, shown]
          exact ⟨accepted :: lines, course.cons accepted⟩

/-- The records of acceptance are those of the accepted lines, one for each. -/
theorem Course.acceptances (course : Course entries lines records result) :
    records.filter (fun record => record.message = "accepted branch definition") =
      lines.map AcceptedLine.acceptance := by
  have ofLine (accepted : AcceptedLine) :
      accepted.records.filter (fun record => record.message = "accepted branch definition") =
        [accepted.acceptance] := by
    rw [AcceptedLine.records, List.filter_append]
    have noWarning : accepted.warnings.filter
        (fun record => record.message = "accepted branch definition") = [] := by
      refine List.filter_eq_nil_iff.mpr fun record member => ?_
      obtain ⟨letter, -, rfl⟩ := List.mem_map.mp member
      simp
    rw [noWarning]
    rfl
  have ofLines : (lines.flatMap AcceptedLine.records).filter
      (fun record => record.message = "accepted branch definition") =
        lines.map AcceptedLine.acceptance := by
    rw [List.filter_flatMap, List.map_eq_flatMap]
    exact List.flatMap_congr fun accepted _ => ofLine accepted
  cases course with
  | throughout => exact ofLines
  | untilRejected =>
      rw [List.filter_append, ofLines]
      exact List.append_nil _

end Reading

theorem trimEnd_of_mem_entries (text : String) :
    ∀ entry ∈ entries text, Text.trimEnd entry.1 = entry.1 := by
  intro entry member
  have numbered := (List.mem_filter.mp member).1
  obtain ⟨raw, -, trimmed⟩ := List.mem_map.mp (List.fst_mem_of_mem_zipIdx numbered)
  rw [← trimmed, Text.trimEnd_trim]

/-- The log of a source tells the course of reading its trimmed lines, numbered
from one and without those that are blank: the accepted lines in their order,
each with its warnings before it, and the rejected line, if there is one, at the
very end.  The acceptances in the log are those of the branches that were
accepted. -/
theorem log_tells_course (text : String) :
    ∃ lines : List AcceptedLine,
      Course ((((Text.lines text).map Text.trim).zipIdx 1).filter fun entry => entry.1 != "")
          lines ((read text).events.map Event.record) (read text).value ∧
        ((read text).events.map Event.record).filter
            (fun record => record.message = "accepted branch definition") =
          lines.map AcceptedLine.acceptance := by
  obtain ⟨lines, course⟩ := exists_course (trimEnd_of_mem_entries text)
  exact ⟨lines, course, course.acceptances⟩

/-- Letters without a meaning are reported as often as they are written, but not
for a line that is rejected. -/
example :
    (read "pt/F/q!q\n\nx/Q/z").events =
      [.unknownModifier "pt" 'q', .unknownModifier "pt" 'q', .accepted 1 "pt",
        .rejected 3 (.unknownType "Q")] := by
  decide +kernel

end Source

end ColumnCode

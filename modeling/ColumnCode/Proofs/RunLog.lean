import ColumnCode.Proofs.SourceEvents
import ColumnCode.Proofs.Verbosity

/-!
# The log of a run

A run reports what the reading of the definitions reports, then that they were
parsed, then every operation of the class, and at last a naming block that is
left open.  A step that fails reports nothing more, and neither does any step
behind it.  The log of an invocation shows these events from a level on that the
verbosity chooses; nothing else that an invocation shows depends on it.
-/

namespace ColumnCode

namespace Invocation

def parsedRecord (file : String) (branches : Nat) (role : Role) : LogRecord where
  level := .info
  message := "parsed definitions"
  details :=
    [("file", .plain file), ("branches", .number branches), ("role", .plain role.label)]

def emittingRecord (role : Role) (branches : Nat) (operation : Operation) : LogRecord where
  level := .trace
  message := "emitting"
  details :=
    [("operation", .plain operation.label), ("role", .plain role.label),
      ("branches", .number branches)]

def openBlockRecord : LogRecord where
  level := .warn
  message := "naming block ended without a terminator line"
  details := []

/-- The file is there, all its lines are text, and none of them ends the block. -/
def LeavesBlockOpen (files : Files) (path : String) : Prop :=
  ∃ bytes, ∃ lines : List String, files path = .ok bytes ∧
    Text.cutLines 10 bytes = lines.map Text.encode ∧ ∀ line ∈ lines, ¬NamingBlock.EndsBlock line

/-- What the reading of the naming block reports, if there is one to read. -/
inductive NamingReports (files : Files) : Option String → List LogRecord → Prop
  | unnamed : NamingReports files none []
  | silent {path : String} (notOpen : ¬LeavesBlockOpen files path) :
      NamingReports files (some path) []
  | leftOpen {path : String} (isOpen : LeavesBlockOpen files path) :
      NamingReports files (some path) [openBlockRecord]

/-- What a run reports: nothing if the definitions are no text, what is reported
up to the line that is rejected, or what all steps report. -/
inductive Reports (target : Target) (definitions : String) (naming? : Option String)
    (files : Files) : List LogRecord → Prop
  | unread (notText : ∀ text, files definitions ≠ .ok (Text.encode text)) :
      Reports target definitions naming? files []
  | rejected {text : String} {failure : Failure}
      (content : files definitions = .ok (Text.encode text))
      (rejects : (Source.read text).value = .error failure) :
      Reports target definitions naming? files ((Source.read text).events.map Event.record)
  | generated {text : String} {branches : List Branch} {ending : List LogRecord}
      (content : files definitions = .ok (Text.encode text))
      (reads : (Source.read text).value = .ok branches)
      (ends : NamingReports files naming? ending) :
      Reports target definitions naming? files
        ((Source.read text).events.map Event.record ++
          parsedRecord definitions branches.length target.role ::
            ((Operation.all.filter fun operation =>
                operation.supportedBy target.role target.backing).map
              (emittingRecord target.role branches.length) ++ ending))

section Naming

variable {files : Files} {path : String}

theorem events_addNaming_of_content {bytes : List UInt8} (content : files path = .ok bytes)
    (listing : Listing) :
    (addNaming path files listing).events = (NamingBlock.read bytes).events := by
  simp only [addNaming, content, Logged.events_bind]
  cases (NamingBlock.read bytes).value.result <;> exact List.append_nil _

theorem events_addNaming_of_leavesBlockOpen (isOpen : LeavesBlockOpen files path)
    (listing : Listing) : (addNaming path files listing).events = [.unterminatedBlock] := by
  obtain ⟨bytes, lines, content, cut, continues⟩ := isOpen
  have readsTo := NamingBlock.ReadsTo.unterminated cut continues
  rw [events_addNaming_of_content content, readsTo.read_eq]

theorem events_addNaming_of_not_leavesBlockOpen (notOpen : ¬LeavesBlockOpen files path)
    (listing : Listing) : (addNaming path files listing).events = [] := by
  cases content : files path with
  | error fault => cases fault <;> simp [addNaming, content]
  | ok bytes =>
      obtain ⟨outcome, readsTo⟩ := NamingBlock.exists_readsTo bytes
      rw [events_addNaming_of_content content, readsTo.read_eq]
      cases readsTo with
      | terminated | undecodable => rfl
      | unterminated cut continues => exact absurd ⟨bytes, _, content, cut, continues⟩ notOpen

/-- What the reading of the naming block adds to a run, behind a listing. -/
def namingEvents (files : Files) (listing : Listing) : Option String → List Event
  | none => []
  | some path => (addNaming path files listing).events

theorem namingReports_namingEvents (files : Files) (listing : Listing) (naming? : Option String) :
    NamingReports files naming? ((namingEvents files listing naming?).map Event.record) := by
  cases naming? with
  | none => exact .unnamed
  | some path =>
      rw [namingEvents]
      by_cases isOpen : LeavesBlockOpen files path
      · rw [events_addNaming_of_leavesBlockOpen isOpen]
        exact .leftOpen isOpen
      · rw [events_addNaming_of_not_leavesBlockOpen isOpen]
        exact .silent isOpen

/-- What a naming block reports is determined. -/
theorem NamingReports.unique {naming? : Option String} {first second : List LogRecord}
    (reportsFirst : NamingReports files naming? first)
    (reportsSecond : NamingReports files naming? second) : first = second := by
  cases reportsFirst <;> cases reportsSecond <;> first | rfl | contradiction

end Naming

section Running

variable (settings : Settings) (files : Files)

theorem readContent_of_content {path text : String}
    (content : files path = .ok (Text.encode text)) :
    Source.readContent path (files path) = Source.read text := by
  simp only [Source.readContent, content, Text.decode?_encode]

theorem readContent_of_notText {path : String}
    (notText : ∀ text, files path ≠ .ok (Text.encode text)) :
    ∃ failure, Source.readContent path (files path) = ⟨[], .error failure⟩ := by
  cases content : files path with
  | error fault => exact ⟨_, rfl⟩
  | ok bytes =>
      have undecodable : Text.decode? bytes = none := by
        apply Text.decode?_eq_none_iff.mpr
        rintro text rfl
        exact notText text content
      refine ⟨.file path .notText, ?_⟩
      simp only [Source.readContent, undecodable]
      rfl

/-- The record of an operation is what writing it reports. -/
theorem records_write (target : Target) (branches : List Branch) (listing : Listing)
    (operation : Operation) :
    (target.write operation branches listing).events.map Event.record =
      [emittingRecord target.role branches.length operation] :=
  rfl

theorem records_run_of_error {failure : Failure} {events : List Event}
    (read : Source.readContent settings.definitions (files settings.definitions) =
      ⟨events, .error failure⟩) :
    (run settings files).events.map Event.record = events.map Event.record := by
  simp only [run, Logged.events_bind, read, Logged.events_pure, List.append_nil]

theorem records_run_of_ok {branches : List Branch} {events : List Event}
    (read : Source.readContent settings.definitions (files settings.definitions) =
      ⟨events, .ok branches⟩) :
    (run settings files).events.map Event.record =
      events.map Event.record ++
        parsedRecord settings.definitions branches.length settings.target.role ::
          ((Operation.all.filter fun operation =>
              operation.supportedBy settings.target.role settings.target.backing).map
            (emittingRecord settings.target.role branches.length) ++
            (namingEvents files (settings.target.document branches).value settings.naming?).map
              Event.record) := by
  have emitted : (settings.target.document branches).events.map Event.record =
      settings.target.operations.map (emittingRecord settings.target.role branches.length) := by
    rw [Target.events_document, List.map_flatMap, List.map_eq_flatMap]
    exact List.flatMap_congr fun operation _ =>
      records_write settings.target branches Listing.empty operation
  have steps : (run settings files).events =
      events ++ .parsed settings.definitions branches.length settings.target.role ::
        ((settings.target.document branches).events ++
          namingEvents files (settings.target.document branches).value settings.naming?) := by
    simp only [run, Logged.events_bind, read]
    cases settings.naming? <;> rfl
  rw [steps, List.map_append, List.map_cons, List.map_append, emitted]
  rfl

/-- A run reports exactly what its steps report. -/
theorem reports_iff {records : List LogRecord} :
    Reports settings.target settings.definitions settings.naming? files records ↔
      (run settings files).events.map Event.record = records := by
  constructor
  · intro reports
    cases reports with
    | unread notText =>
        obtain ⟨failure, read⟩ := readContent_of_notText files notText
        exact records_run_of_error settings files read
    | rejected content rejects =>
        apply records_run_of_error settings files
        rw [readContent_of_content files content, ← rejects]
    | generated content reads ends =>
        rw [records_run_of_ok settings files
          ((readContent_of_content files content).trans (by rw [← reads])),
          (namingReports_namingEvents files _ settings.naming?).unique ends]
  · rintro rfl
    by_cases isText : ∃ text, files settings.definitions = .ok (Text.encode text)
    · obtain ⟨text, content⟩ := isText
      have read := readContent_of_content files content
      cases value : (Source.read text).value with
      | error failure =>
          rw [records_run_of_error settings files (read.trans (by rw [← value]))]
          exact .rejected content value
      | ok branches =>
          rw [records_run_of_ok settings files (read.trans (by rw [← value]))]
          exact .generated content value (namingReports_namingEvents files _ _)
    · have notText := not_exists.mp isText
      obtain ⟨failure, read⟩ := readContent_of_notText files notText
      rw [records_run_of_error settings files read]
      exact .unread notText

end Running

/-- Another verbosity shows other events and changes nothing else. -/
theorem outcomeOf_withVerbosity (settings : Settings) (files : Files) (verbosity : Nat) :
    outcomeOf { settings with verbosity := verbosity } files =
      { outcomeOf settings files with
        log := (shownEvents verbosity (run settings files).events).map Event.logLine } := by
  have sameRun : run { settings with verbosity := verbosity } files = run settings files := rfl
  have shown : (run settings files).events.filter (Event.isShown verbosity) =
      shownEvents verbosity (run settings files).events :=
    List.filter_congr fun event _ => isShown_eq verbosity event
  simp only [outcomeOf, sameRun, shown]
  cases (run settings files).value <;> rfl

/-- The events of a run are those that its steps report.  Whatever verbosity is
asked for, an invocation shows the events from its level on, fewer of them for
less verbosity, and comes to the same code and the same output or failure.  Each
flag in front of the arguments asks for one more level. -/
theorem log_shows_run {arguments : List String} {request : Request} {definitions : String}
    (accepted : Request.readAll {} none arguments = .ok request)
    (given : request.definitions? = some definitions) (files : Files) :
    ∃ events : List Event,
      (∀ records, Reports request.target definitions request.naming? files records ↔
        events.map Event.record = records) ∧
      (∀ others verbosity,
        Request.readAll {} none others = .ok { request with verbosity := verbosity } →
          (invoke others files).log = (shownEvents verbosity events).map Event.logLine ∧
            (invoke others files).exitCode = (invoke arguments files).exitCode ∧
            (invoke others files).failure? = (invoke arguments files).failure? ∧
            (invoke others files).output = (invoke arguments files).output ∧
            (request.verbosity ≤ verbosity →
              (invoke arguments files).log.Sublist (invoke others files).log)) ∧
      ∀ count, Request.readAll {} none (List.replicate count "-v" ++ arguments) =
        .ok (request.louder count) := by
  let settings : Settings := ⟨definitions, request.target, request.naming?, request.verbosity⟩
  have asked : invoke arguments files = outcomeOf settings files := by
    simp only [invoke, settingsOf_eq accepted given]
    rfl
  have ownLog : (outcomeOf settings files).log =
      (shownEvents request.verbosity (run settings files).events).map Event.logLine :=
    congrArg Outcome.log (outcomeOf_withVerbosity settings files request.verbosity)
  refine ⟨(run settings files).events, fun records => reports_iff settings files, ?_, ?_⟩
  · intro others verbosity acceptedOthers
    have askedOthers : invoke others files =
        { outcomeOf settings files with
          log := (shownEvents verbosity (run settings files).events).map Event.logLine } := by
      rw [← outcomeOf_withVerbosity]
      simp only [invoke, settingsOf_eq acceptedOthers given]
      rfl
    rw [askedOthers, asked]
    refine ⟨rfl, rfl, rfl, rfl, fun le => ?_⟩
    rw [ownLog]
    exact (shownEvents_sublist le _).map Event.logLine
  · intro count
    rw [Request.readAll_flags, accepted]
    rfl

/-- An entry whose naming block is left open, without flags and with two. -/
theorem log_shows_run_flagged :
    Request.readAll {} none ["m.def", "-r", "entry", "--naming", "n"] =
        .ok { definitions? := some "m.def", role? := some .entry, naming? := some "n" } ∧
      Request.readAll {} none ["-v", "-v", "m.def", "-r", "entry", "--naming", "n"] =
        .ok { definitions? := some "m.def", role? := some .entry, naming? := some "n",
              verbosity := 2 } ∧
      ∃ events : List Event,
        events.map Event.record =
          ⟨.debug, "accepted branch definition",
              [("line", .number 1), ("branch", .quoted "pt")]⟩ ::
            parsedRecord "m.def" 1 .entry ::
            ([.declare, .assign, .reset, .enable, .bind, .book, .release, .dump].map
              (emittingRecord .entry 1) ++ [openBlockRecord]) ∧
        (invoke ["-v", "-v", "m.def", "-r", "entry", "--naming", "n"]
            (pairOfFiles (Text.encode "(parse)\na\n"))).log =
          (shownEvents 2 events).map Event.logLine ∧
        (invoke ["-v", "-v", "m.def", "-r", "entry", "--naming", "n"]
            (pairOfFiles (Text.encode "(parse)\na\n"))).output =
          (invoke ["m.def", "-r", "entry", "--naming", "n"]
            (pairOfFiles (Text.encode "(parse)\na\n"))).output ∧
        (invoke ["m.def", "-r", "entry", "--naming", "n"]
            (pairOfFiles (Text.encode "(parse)\na\n"))).log.Sublist
          (invoke ["-v", "-v", "m.def", "-r", "entry", "--naming", "n"]
            (pairOfFiles (Text.encode "(parse)\na\n"))).log := by
  have accepted : Request.readAll {} none ["m.def", "-r", "entry", "--naming", "n"] =
      .ok { definitions? := some "m.def", role? := some .entry, naming? := some "n" } := by
    decide +kernel
  have isOpen : LeavesBlockOpen (pairOfFiles (Text.encode "(parse)\na\n")) "n" :=
    ⟨_, ["(parse)\n", "a\n"], rfl, by decide +kernel, by decide +kernel⟩
  have reads : (Source.read "pt/F\n").value =
      .ok [⟨"pt", .float32, .ofTokens [], ⟨false, false⟩, "", ""⟩] := by decide +kernel
  have source : (Source.read "pt/F\n").events.map Event.record =
      [⟨.debug, "accepted branch definition",
        [("line", .number 1), ("branch", .quoted "pt")]⟩] := by
    decide +kernel
  obtain ⟨events, records, runs, flags⟩ :=
    log_shows_run accepted rfl (pairOfFiles (Text.encode "(parse)\na\n"))
  have reported := (records _).mp (.generated rfl reads (.leftOpen isOpen))
  rw [source] at reported
  obtain ⟨shown, -, -, output, more⟩ := runs _ 2 (flags 2)
  exact ⟨accepted, flags 2, events, reported, shown, output, more (by decide)⟩

end Invocation

end ColumnCode

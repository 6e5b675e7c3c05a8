import ColumnCode.Invocation.Run
import ColumnCode.Proofs.BlockReading
import ColumnCode.Proofs.SourceJoining

/-!
# What an invocation comes to

An invocation reads the definitions and then, if it is asked to, a naming block.
Either both steps succeed and everything is shown, or the first step that fails
gives the failure and nothing is shown at all, not even code that was generated
before the naming block was found at fault.
-/

namespace ColumnCode

namespace Invocation

/-- The class that a request asks for.  What it leaves open is as usual, and of
the vocabulary it chooses the namespace and the capacity only. -/
def Request.target (request : Request) : Target where
  role := request.role?.getD .storage
  backing := .ofVectorChoice request.vector
  vocabulary := { Vocabulary.standard with
    runtime := request.runtime?.getD "panda::utils"
    capacity := request.capacity?.getD "nmax_" }

/-- The texts of a naming block as they stand behind a document. -/
def blockText (block : NamingBlock) : String :=
  "// naming: parse\n" ++ block.parsing ++ "// naming: generate\n" ++ block.generating

/-- The definitions at a path are text, and the text is a source. -/
def ReadsDefinitions (files : Files) (path : String) (branches : List Branch) : Prop :=
  ∃ text, files path = .ok (Text.encode text) ∧ (Source.read text).value = .ok branches

/-- How reading the definitions at a path fails: there is no content, the content
is no text, or the text has a line that is rejected. -/
inductive DefinitionsFail (files : Files) (path : String) : Failure → Prop
  | unread {fault : FileFault} (absent : files path = .error fault) :
      DefinitionsFail files path (.file path fault)
  | notText {bytes : List UInt8} (content : files path = .ok bytes)
      (undecodable : ∀ text, bytes ≠ Text.encode text) :
      DefinitionsFail files path (.file path .notText)
  | rejected {text detail : String} {line : Nat} (content : files path = .ok (Text.encode text))
      (rejects : (Source.read text).value = .error (.source line detail)) :
      DefinitionsFail files path (.source line detail)

/-- The file at a path begins with a naming block. -/
def ReadsNaming (files : Files) (path : String) (block : NamingBlock) : Prop :=
  ∃ bytes, files path = .ok bytes ∧ (NamingBlock.read bytes).value.result = .ok block

/-- How reading a naming block fails: the file cannot be opened, it is a
directory, which can be opened but not read, or a line of the block is no
text. -/
inductive NamingFails (files : Files) (path : String) : Failure → Prop
  | unopened {fault : FileFault} (absent : files path = .error fault)
      (notDirectory : fault ≠ .isDirectory) : NamingFails files path (.file path fault)
  | unreadable (directory : files path = .error .isDirectory) :
      NamingFails files path (.reading .isDirectory)
  | undecodable {bytes : List UInt8} {fault : FileFault} (content : files path = .ok bytes)
      (fails : (NamingBlock.read bytes).value.result = .error fault) :
      NamingFails files path (.reading fault)

/-- What the steps come to, one after the other: the branches and the naming
block, or the failure of the first step that fails. -/
inductive Steps (definitions : String) (naming? : Option String) (files : Files) :
    Except Failure (List Branch × Option NamingBlock) → Prop
  | noDefinitions {failure : Failure} (fails : DefinitionsFail files definitions failure) :
      Steps definitions naming? files (.error failure)
  | plain {branches : List Branch} (reads : ReadsDefinitions files definitions branches)
      (unnamed : naming? = none) : Steps definitions naming? files (.ok (branches, none))
  | noNaming {branches : List Branch} {path : String} {failure : Failure}
      (reads : ReadsDefinitions files definitions branches) (named : naming? = some path)
      (fails : NamingFails files path failure) : Steps definitions naming? files (.error failure)
  | named {branches : List Branch} {path : String} {block : NamingBlock}
      (reads : ReadsDefinitions files definitions branches) (named : naming? = some path)
      (readsNaming : ReadsNaming files path block) :
      Steps definitions naming? files (.ok (branches, some block))

section Definitions

variable {files : Files} {path : String}

theorem ReadsDefinitions.value_readContent {branches : List Branch}
    (reads : ReadsDefinitions files path branches) :
    (Source.readContent path (files path)).value = .ok branches := by
  obtain ⟨text, content, read⟩ := reads
  rw [content]
  simpa [Source.readContent] using read

theorem DefinitionsFail.value_readContent {failure : Failure}
    (fails : DefinitionsFail files path failure) :
    (Source.readContent path (files path)).value = .error failure := by
  cases fails with
  | unread absent =>
      rw [absent]
      rfl
  | notText content undecodable =>
      rw [content]
      simp [Source.readContent, Text.decode?_eq_none_iff.mpr undecodable]
  | rejected content rejects =>
      rw [content]
      simpa [Source.readContent] using rejects

theorem definitions_read_or_fail (files : Files) (path : String) :
    (∃ branches, ReadsDefinitions files path branches) ∨
      ∃ failure, DefinitionsFail files path failure := by
  cases content : files path with
  | error fault => exact .inr ⟨_, .unread content⟩
  | ok bytes =>
      by_cases isText : ∃ text, bytes = Text.encode text
      · obtain ⟨text, rfl⟩ := isText
        cases read : (Source.read text).value with
        | ok branches => exact .inl ⟨branches, text, content, read⟩
        | error failure =>
            obtain ⟨line, detail, rfl⟩ := Source.exists_line_of_error read
            exact .inr ⟨_, .rejected content read⟩
      · exact .inr ⟨_, .notText content (not_exists.mp isText)⟩

end Definitions

section Naming

variable {files : Files} {path : String} (listing : Listing)

theorem text_showBlock (block : NamingBlock) :
    (showBlock block listing).text = listing.text ++ blockText block :=
  -- Both sides are spelled out: unfolding them by simp makes it compare literals.
  calc (showBlock block listing).text
    _ = listing.text ++ ("// naming: parse" ++ "\n") ++ block.parsing ++
          ("// naming: generate" ++ "\n") ++ block.generating := rfl
    _ = listing.text ++ ("// naming: parse\n" ++ block.parsing ++
          "// naming: generate\n" ++ block.generating) := by
        simp only [String.append_assoc, String.reduceAppend]

theorem ReadsNaming.value_addNaming {block : NamingBlock} (reads : ReadsNaming files path block) :
    (addNaming path files listing).value = .ok (showBlock block listing) := by
  obtain ⟨bytes, content, read⟩ := reads
  simp [addNaming, content, read]

theorem NamingFails.value_addNaming {failure : Failure} (fails : NamingFails files path failure) :
    (addNaming path files listing).value = .error failure := by
  cases fails with
  | @unopened fault absent notDirectory =>
      cases fault <;> simp_all [addNaming]
  | unreadable directory => simp [addNaming, directory]
  | undecodable content fails => simp [addNaming, content, fails]

theorem naming_reads_or_fails (files : Files) (path : String) :
    (∃ block, ReadsNaming files path block) ∨ ∃ failure, NamingFails files path failure := by
  cases content : files path with
  | error fault =>
      by_cases directory : fault = .isDirectory
      · exact .inr ⟨_, .unreadable (directory ▸ content)⟩
      · exact .inr ⟨_, .unopened content directory⟩
  | ok bytes =>
      cases read : (NamingBlock.read bytes).value.result with
      | ok block => exact .inl ⟨block, bytes, content, read⟩
      | error fault => exact .inr ⟨_, .undecodable content read⟩

end Naming

/-- Whatever the files hold, the steps come to something. -/
theorem exists_steps (definitions : String) (naming? : Option String) (files : Files) :
    ∃ result, Steps definitions naming? files result := by
  rcases definitions_read_or_fail files definitions with ⟨branches, reads⟩ | ⟨failure, fails⟩
  · cases named : naming? with
    | none => exact ⟨_, .plain reads rfl⟩
    | some path =>
        rcases naming_reads_or_fails files path with ⟨block, readsNaming⟩ | ⟨failure, fails⟩
        · exact ⟨_, .named reads rfl readsNaming⟩
        · exact ⟨_, .noNaming reads rfl fails⟩
  · exact ⟨_, .noDefinitions fails⟩

/-- A file that goes on behind a block is read like the block alone, whatever
the bytes behind it are. -/
theorem ReadsNaming.of_isBlock {files : Files} {path : String} {source rest : List UInt8}
    {block : NamingBlock} (isBlock : NamingBlock.IsBlock source block)
    (content : files path = .ok (source ++ rest)) : ReadsNaming files path block :=
  ⟨_, content, by rw [isBlock.read_append rest]⟩

/-- What an invocation shows of its steps: all the code, or a failure and no
code. -/
def Shows (target : Target) (outcome : Outcome) :
    Except Failure (List Branch × Option NamingBlock) → Prop
  | .ok (branches, block?) =>
      outcome.exitCode = 0 ∧ outcome.failure? = none ∧
        outcome.output = (target.document branches).value.text ++ block?.elim "" blockText
  | .error failure =>
      outcome.exitCode = 1 ∧ outcome.failure? = some failure ∧ outcome.output = ""

section Running

variable (settings : Settings) {files : Files}

theorem value_run_of_fails {failure : Failure}
    (fails : DefinitionsFail files settings.definitions failure) :
    (run settings files).value = .error failure := by
  simp [run, fails.value_readContent]

theorem value_run_of_reads {branches : List Branch}
    (reads : ReadsDefinitions files settings.definitions branches) :
    (run settings files).value =
      match settings.naming? with
      | none => .ok (settings.target.document branches).value
      | some path => (addNaming path files (settings.target.document branches).value).value := by
  cases named : settings.naming? <;> simp [run, reads.value_readContent, named]

theorem shows_of_error {failure : Failure} (stops : (run settings files).value = .error failure) :
    Shows settings.target (outcomeOf settings files) (.error failure) := by
  simp [Shows, outcomeOf, stops]

theorem shows_of_ok {branches : List Branch} {block? : Option NamingBlock} {listing : Listing}
    (ends : (run settings files).value = .ok listing)
    (text : listing.text =
      (settings.target.document branches).value.text ++ block?.elim "" blockText) :
    Shows settings.target (outcomeOf settings files) (.ok (branches, block?)) := by
  simp [Shows, outcomeOf, ends, text]

/-- What the steps come to is what the invocation shows, one case for each way
the steps can go. -/
theorem shows_of_steps {result : Except Failure (List Branch × Option NamingBlock)}
    (steps : Steps settings.definitions settings.naming? files result) :
    Shows settings.target (outcomeOf settings files) result := by
  cases steps with
  | noDefinitions fails => exact shows_of_error settings (value_run_of_fails settings fails)
  | plain reads unnamed =>
      refine shows_of_ok settings ?_ String.append_empty.symm
      simp only [value_run_of_reads settings reads, unnamed]
  | noNaming reads named fails =>
      refine shows_of_error settings ?_
      simp only [value_run_of_reads settings reads, named, fails.value_addNaming]
  | named reads named readsNaming =>
      refine shows_of_ok settings ?_ (text_showBlock _ _)
      simp only [value_run_of_reads settings reads, named, readsNaming.value_addNaming]

end Running

theorem settingsOf_eq {arguments : List String} {request : Request} {definitions : String}
    (accepted : Request.readAll {} none arguments = .ok request)
    (given : request.definitions? = some definitions) :
    settingsOf arguments =
      .ok ⟨definitions, request.target, request.naming?, request.verbosity⟩ := by
  simp only [settingsOf, accepted]
  change request.settings = _
  simp only [Request.settings, given]
  rfl

/-- An invocation whose arguments are accepted shows exactly what its steps come
to.  The steps always come to something, and what stands behind a naming block
never makes them fail. -/
theorem invoke_all_or_nothing {arguments : List String} {request : Request} {definitions : String}
    (accepted : Request.readAll {} none arguments = .ok request)
    (given : request.definitions? = some definitions) (files : Files) :
    (∃ result, Steps definitions request.naming? files result) ∧
      (∀ result, Steps definitions request.naming? files result →
        Shows request.target (invoke arguments files) result) ∧
      ∀ path source rest block branches, request.naming? = some path →
        files path = .ok (source ++ rest) → NamingBlock.IsBlock source block →
        ReadsDefinitions files definitions branches →
        Steps definitions request.naming? files (.ok (branches, some block)) := by
  refine ⟨exists_steps _ _ _, fun result steps => ?_, ?_⟩
  · simp only [invoke, settingsOf_eq accepted given]
    exact shows_of_steps
      ⟨definitions, request.target, request.naming?, request.verbosity⟩ steps
  · intro path source rest block branches named content isBlock reads
    exact .named reads named (.of_isBlock isBlock content)

/-- A path with one branch, and a path with some bytes to name it by. -/
def pairOfFiles (naming : List UInt8) : Files
  | "m.def" => .ok (Text.encode "pt/F\n")
  | "n" => .ok naming
  | _ => .error .notFound

/-- A naming block in front of a byte that no text begins with, and that byte
alone. -/
theorem invoke_all_or_nothing_named :
    Request.readAll {} none ["m.def", "-r", "entry", "--naming", "n"] =
        .ok { definitions? := some "m.def", role? := some .entry, naming? := some "n" } ∧
      Shows { role := .entry }
        (invoke ["m.def", "-r", "entry", "--naming", "n"]
          (pairOfFiles (Text.encode "(parse)\na\n<end>\n" ++ [255])))
        (.ok ([⟨"pt", .float32, .ofTokens [], ⟨false, false⟩, "", ""⟩], some ⟨"a\n", ""⟩)) ∧
      Shows { role := .entry }
        (invoke ["m.def", "-r", "entry", "--naming", "n"] (pairOfFiles [255]))
        (.error (.reading .notText)) := by
  have accepted : Request.readAll {} none ["m.def", "-r", "entry", "--naming", "n"] =
      .ok { definitions? := some "m.def", role? := some .entry, naming? := some "n" } := by
    decide +kernel
  have reads (naming : List UInt8) : ReadsDefinitions (pairOfFiles naming) "m.def"
      [⟨"pt", .float32, .ofTokens [], ⟨false, false⟩, "", ""⟩] :=
    ⟨"pt/F\n", rfl, by decide +kernel⟩
  have isBlock : NamingBlock.IsBlock (Text.encode "(parse)\na\n<end>\n") ⟨"a\n", ""⟩ :=
    ⟨["(parse)\n", "a\n"], "<end>\n", by decide +kernel⟩
  have atBlock := invoke_all_or_nothing accepted rfl
    (pairOfFiles (Text.encode "(parse)\na\n<end>\n" ++ [255]))
  have atByte := invoke_all_or_nothing accepted rfl (pairOfFiles [255])
  exact ⟨accepted, atBlock.2.1 _ (atBlock.2.2 "n" _ _ _ _ rfl rfl isBlock (reads _)),
    atByte.2.1 _ (.noNaming (reads _) rfl (.undecodable rfl (by decide +kernel)))⟩

end Invocation

end ColumnCode

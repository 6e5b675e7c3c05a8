import ColumnCode.Invocation.Arguments
import ColumnCode.NamingBlock
import ColumnCode.Source
import ColumnCode.Target.Document

/-!
# Runs

A run reads the definitions, generates the document of the class and, if a
naming file is given, shows the two texts of its block behind the document.
Code is written only when every step has succeeded.
-/

namespace ColumnCode

namespace Invocation

/-- The content of the file at each path. -/
abbrev Files :=
  String → Except FileFault (List UInt8)

/-- Show the texts of a naming block behind a listing. -/
def showBlock (block : NamingBlock) (listing : Listing) : Listing :=
  block.writeGenerating
    ((block.writeParsing (listing.addLine "// naming: parse")).addLine "// naming: generate")

/-- Read the naming file and show its block.  A directory can be opened but not
read, so it fails as a reading and not as a file. -/
def addNaming (path : String) (files : Files) (listing : Listing) :
    Logged (Except Failure Listing) :=
  match files path with
  | .error .isDirectory => pure (.error (.reading .isDirectory))
  | .error fault => pure (.error (.file path fault))
  | .ok bytes => do
      match (← NamingBlock.read bytes).result with
      | .error fault => return .error (.reading fault)
      | .ok block => return .ok (showBlock block listing)

def run (settings : Settings) (files : Files) : Logged (Except Failure Listing) := do
  match ← Source.readContent settings.definitions (files settings.definitions) with
  | .error failure => return .error failure
  | .ok branches =>
      Logged.report [.parsed settings.definitions branches.length settings.target.role]
      let listing ← settings.target.document branches
      match settings.naming? with
      | none => return .ok listing
      | some path => addNaming path files listing

/-- What the outside sees of an invocation. -/
structure Outcome where
  exitCode : Nat
  output : String := ""
  failure? : Option Failure := none
  log : List String := []
  deriving DecidableEq, Repr

def versionLine : String :=
  "branchgen 0.1.0"

def usage : String :=
  "Usage: branchgen [OPTIONS] <DEFINITIONS>\n\n" ++
    "  -r, --role <ROLE>      storage, cached, entry or element\n" ++
    "      --vector           hold the columns of a storage in vectors\n" ++
    "      --namespace <NAME> namespace of the persistence functions\n" ++
    "      --capacity <EXPR>  number of entries a storage has room for\n" ++
    "      --naming <FILE>    naming block to show behind the code\n" ++
    "  -v, --verbose          show more of the log, repeatedly for more\n" ++
    "  -h, --help             show this text\n" ++
    "  -V, --version          show the version\n"

/-- The outcome of a run, with the events that its verbosity shows. -/
def outcomeOf (settings : Settings) (files : Files) : Outcome :=
  let logged := run settings files
  let log := (logged.events.filter (Event.isShown settings.verbosity)).map Event.logLine
  match logged.value with
  | .ok listing => { exitCode := 0, output := listing.text, log := log }
  | .error failure => { exitCode := 1, failure? := some failure, log := log }

def invoke (arguments : List String) (files : Files) : Outcome :=
  match settingsOf arguments with
  | .error .misuse => { exitCode := 2 }
  | .error .version => { exitCode := 0, output := versionLine ++ "\n" }
  | .error .help => { exitCode := 0, output := usage }
  | .ok settings => outcomeOf settings files

end Invocation

end ColumnCode

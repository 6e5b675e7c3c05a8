import ColumnCode.Invocation.Run

/-!
# The program

The outer layer around a run: it reads the files that the settings name, writes
the outcome to the standard streams, and decides nothing else.
-/

namespace ColumnCode

/-- What an error of the file system means for the content of a file. -/
def faultOf : IO.Error → FileFault
  | .noFileOrDirectory .. => .notFound
  | .inappropriateType _ code _ => if code = 21 then .isDirectory else .notDirectory
  | error => .other (toString error)

def contentAt (path : String) : IO (Except FileFault (List UInt8)) := do
  try
    return .ok (← IO.FS.readBinFile path).data.toList
  catch error =>
    return .error (faultOf error)

/-- The contents of the files that the settings name. -/
def readFiles (settings : Invocation.Settings) : IO Invocation.Files := do
  let definitions ← contentAt settings.definitions
  match settings.naming? with
  | none => return fun _ => definitions
  | some naming =>
      let block ← contentAt naming
      return fun path => if path = settings.definitions then definitions else block

def outcome (arguments : List String) : IO Invocation.Outcome := do
  let files ← match Invocation.settingsOf arguments with
    | .ok settings => readFiles settings
    | .error _ => pure fun _ => .error .notFound
  return Invocation.invoke arguments files

end ColumnCode

open ColumnCode in
def main (arguments : List String) : IO UInt32 := do
  let outcome ← outcome arguments
  for line in outcome.log do
    IO.eprintln line
  if outcome.exitCode = 2 then
    IO.eprint Invocation.usage
  if let some failure := outcome.failure? then
    IO.eprintln ("Error: " ++ failure.report)
  IO.print outcome.output
  return outcome.exitCode.toUInt32

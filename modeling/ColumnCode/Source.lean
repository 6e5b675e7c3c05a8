import ColumnCode.Branch
import ColumnCode.Failure
import ColumnCode.Text.Encoding

/-!
# Definition sources

A source is a text with one definition on each line that is not blank.  Blanks
around a definition do not count, and the first line that is rejected ends the
reading.
-/

namespace ColumnCode

namespace Source

/-- The lines of a source that are not blank, without the blanks around them,
each with its number.  The first line of the source has number one. -/
def entries (text : String) : List (String × Nat) :=
  (((Text.lines text).map Text.trim).zipIdx 1).filter fun (line, _) => line != ""

/-- Read numbered lines until one is rejected. -/
def readEntries : List (String × Nat) → Logged (Except Failure (List Branch))
  | [] => pure (.ok [])
  | (line, number) :: rest => do
      match ← Branch.read line with
      | .error rejection =>
          Logged.report [.rejected number rejection.reason]
          return .error (.source number rejection.text)
      | .ok branch =>
          Logged.report [.accepted number branch.name]
          return (← readEntries rest).map (branch :: ·)

/-- Read a source, one branch for each line that is not blank. -/
def read (text : String) : Logged (Except Failure (List Branch)) :=
  readEntries (entries text)

/-- Read a source from the content of a file.  The whole content is checked to
be text before any line is read. -/
def readContent (path : String) (content : Except FileFault (List UInt8)) :
    Logged (Except Failure (List Branch)) :=
  match content with
  | .error fault => pure (.error (.file path fault))
  | .ok bytes =>
      match Text.decode? bytes with
      | none => pure (.error (.file path .notText))
      | some text => read text

end Source

end ColumnCode

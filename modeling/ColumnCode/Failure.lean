import ColumnCode.Rejection
import ColumnCode.Text.Quoted

/-!
# Failures

Everything that can stop a run, as causes.  A failure has a message for
people, and a report that shows its parts with their texts in quotes.
-/

namespace ColumnCode

/-- Why the content of a file could not be obtained as text. -/
inductive FileFault where
  | notFound
  | notDirectory
  | isDirectory
  | nameTooLong
  | nulInPath
  | notText
  | other (text : String)
  deriving DecidableEq, Repr

namespace FileFault

/-- The number, the kind and the words of a fault that the operating system
reports by number. -/
def systemCode? : FileFault → Option (Nat × String × String)
  | notFound => some (2, "NotFound", "No such file or directory")
  | notDirectory => some (20, "NotADirectory", "Not a directory")
  | isDirectory => some (21, "IsADirectory", "Is a directory")
  | nameTooLong => some (36, "InvalidFilename", "File name too long")
  | _ => none

/-- The words of a fault that the operating system does not report. -/
def ownText : FileFault → String
  | nulInPath => "file name contained an unexpected NUL byte"
  | notText => "stream did not contain valid UTF-8"
  | other text => text
  | _ => ""

def message (fault : FileFault) : String :=
  match fault.systemCode? with
  | some (code, _, words) => words ++ " (os error " ++ toString code ++ ")"
  | none => fault.ownText

def report (fault : FileFault) : String :=
  match fault.systemCode? with
  | some (code, kind, words) =>
      "Os \x7b code: " ++ toString code ++ ", kind: " ++ kind ++
        ", message: " ++ Text.quote words ++ " \x7d"
  | none =>
      match fault with
      | nulInPath =>
          "Error \x7b kind: InvalidInput, message: " ++ Text.quote fault.ownText ++ " \x7d"
      | notText =>
          "Error \x7b kind: InvalidData, message: " ++ Text.quote fault.ownText ++ " \x7d"
      | _ => "Custom \x7b kind: Other, error: " ++ Text.quote fault.ownText ++ " \x7d"

end FileFault

/-- Why a run or one of its steps stopped. -/
inductive Failure where
  | rejected (rejection : Rejection)
  | source (line : Nat) (detail : String)
  | file (path : String) (fault : FileFault)
  | reading (fault : FileFault)
  deriving DecidableEq, Repr

namespace Failure

def message : Failure → String
  | rejected rejection => "Definition rejected: " ++ rejection.text
  | source line detail => "Parse error at line " ++ toString line ++ ": " ++ detail
  | file path fault => "Failed to read definition file '" ++ path ++ "': " ++ fault.message
  | reading fault => "I/O error: " ++ fault.message

/-- Whether the failure only says that one line is not a definition, so that
the line may still be something else. -/
def isRejection : Failure → Bool
  | rejected _ => true
  | _ => false

def report : Failure → String
  | rejected rejection =>
      "DefinitionRejected \x7b definition: " ++ Text.quote rejection.line ++ ", reason: " ++
        (match rejection.reason with
          | .grammar => "GrammarMismatch"
          | .unknownType code => "UnknownType(" ++ Text.quote code ++ ")") ++ " \x7d"
  | source line detail =>
      "ParseError \x7b line: " ++ toString line ++ ", message: " ++ Text.quote detail ++ " \x7d"
  | file path fault =>
      "FileReadError \x7b path: " ++ Text.quote path ++ ", source: " ++ fault.report ++ " \x7d"
  | reading fault => "Io(" ++ fault.report ++ ")"

end Failure

end ColumnCode

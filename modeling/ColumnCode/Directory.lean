import ColumnCode.Failure

/-!
# Directories

A directory of files as a value, so that a run can be described without a file
system.  Paths are relative to the directory and are followed one component at
a time.
-/

namespace ColumnCode

/-- Plain files by name. -/
structure Directory where
  files : List (String × List UInt8)

namespace Directory

def components (path : String) : List String :=
  path.toList.splitOn '/' |>.map String.ofList

def staysInPlace (component : String) : Bool :=
  component == "" || component == "."

/-- Whether a component is longer than any file name can be, in bytes. -/
def isTooLong (component : String) : Bool :=
  255 < component.utf8ByteSize

/-- Follow components outside of the directory, where no file is known. -/
def lookUpOutside : List String → FileFault
  | [] => .isDirectory
  | component :: rest =>
      if staysInPlace component || component == ".." then
        lookUpOutside rest
      else if isTooLong component then
        .nameTooLong
      else
        .notFound

/-- Follow components from the directory. -/
def lookUp (directory : Directory) : List String → Except FileFault (List UInt8)
  | [] => .error .isDirectory
  | component :: rest =>
      if staysInPlace component then
        directory.lookUp rest
      else if component == ".." then
        .error (lookUpOutside rest)
      else if isTooLong component then
        .error .nameTooLong
      else
        match directory.files.lookup component with
        | none => .error .notFound
        | some content => if rest.isEmpty then .ok content else .error .notDirectory

def read (directory : Directory) (path : String) : Except FileFault (List UInt8) :=
  if path.toList.contains '\x00' then
    .error .nulInPath
  else if path = "" then
    .error .notFound
  else if 4096 ≤ path.utf8ByteSize then
    .error .nameTooLong
  else if path.toList.head? = some '/' then
    .error (lookUpOutside (components path))
  else
    directory.lookUp (components path)

end Directory

end ColumnCode

import ColumnCode.Event
import ColumnCode.Failure
import ColumnCode.Listing
import ColumnCode.Text.Encoding
import ColumnCode.Text.Lines
import ColumnCode.Text.Occurrence

/-!
# Naming blocks

A naming block holds two pieces of text, one for taking branch names apart and
one for making them:

    (parse)
      text taken as it is
    (generate)
      text taken as it is
    <end>

A block is read from the front of some bytes, and what follows its last line
stays unread.
-/

namespace ColumnCode

/-- The two texts of a naming block. -/
structure NamingBlock where
  parsing : String
  generating : String
  deriving DecidableEq, Repr

namespace NamingBlock

inductive Part where
  | parsing
  | generating
  deriving DecidableEq, Repr

/-- What a line of a block is: the end of the block, the head of a part, or
content of the part before it. -/
inductive LineKind where
  | terminator
  | heading (part : Part)
  | content
  deriving DecidableEq, Repr

def parsingMarker : String := "(parse)"

def generatingMarker : String := "(generate)"

def terminatorMarker : String := "<end"

/-- The kind of a line.  The end of a block may be indented, and the markers
of the parts may stand anywhere in their lines. -/
def kindOf (line : String) : LineKind :=
  if terminatorMarker.toList.isPrefixOf (Text.dropBlanks line.toList) then
    .terminator
  else if Text.occurs parsingMarker.toList line.toList then
    .heading .parsing
  else if Text.occurs generatingMarker.toList line.toList then
    .heading .generating
  else
    .content

def empty : NamingBlock :=
  ⟨"", ""⟩

/-- Add a line to a part.  Lines before the first heading belong to no part. -/
def add (block : NamingBlock) (line : String) : Option Part → NamingBlock
  | none => block
  | some .parsing => { block with parsing := block.parsing ++ line }
  | some .generating => { block with generating := block.generating ++ line }

/-- The result of reading a block, and the bytes behind the last line that was
read. -/
structure Reading where
  result : Except FileFault NamingBlock
  unread : List UInt8

/-- Read lines into a block until it ends or a line is not text. -/
def readLines (block : NamingBlock) (part? : Option Part) :
    List (List UInt8) → Logged Reading
  | [] => do
      Logged.report [.unterminatedBlock]
      return ⟨.ok block, []⟩
  | bytes :: rest =>
      match Text.decode? bytes with
      | none => pure ⟨.error .notText, rest.flatten⟩
      | some line =>
          match kindOf line with
          | .terminator => pure ⟨.ok block, rest.flatten⟩
          | .heading part => readLines block (some part) rest
          | .content => readLines (block.add line part?) part? rest

def read (bytes : List UInt8) : Logged Reading :=
  readLines empty none (Text.cutLines 10 bytes)

def ofText (text : String) : Logged (Except FileFault NamingBlock) := do
  return (← read (Text.encode text)).result

def writeParsing (block : NamingBlock) (listing : Listing) : Listing :=
  listing.addText block.parsing

def writeGenerating (block : NamingBlock) (listing : Listing) : Listing :=
  listing.addText block.generating

end NamingBlock

end ColumnCode

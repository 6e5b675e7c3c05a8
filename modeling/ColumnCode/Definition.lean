import ColumnCode.Shape
import ColumnCode.Text.Blank
import ColumnCode.Text.Lines

/-!
# Definition lines

A definition line describes one column:

    name[dimension]…/code/modifiers = initializer // comment

Dimensions, modifiers, initializer and comment may be absent.  Each reader
below takes one part from the front of the remaining characters and returns
the part with what follows it.  Every part ends where its character class
ends, so no reader has a choice and the parts of a line are unique.
-/

namespace ColumnCode

/-- The parts of a definition line as they were written.  An absent part is
empty, and a comment keeps one blank before its slashes. -/
structure Definition where
  name : String
  dimensions : List String
  code : String
  modifiers : String
  initializer : String
  comment : String
  deriving DecidableEq, Repr

namespace Definition

/-- The characters that begin a name: ASCII letters and the underscore. -/
def beginsName (character : Char) : Bool :=
  character.isAlpha || character == '_'

def continuesName (character : Char) : Bool :=
  character.isAlphanum || character == '_'

/-- The characters inside the brackets of a dimension. -/
def inDimension (character : Char) : Bool :=
  character != '[' && character != ']' && character != '/' &&
    character != '\n' && character != '\r'

/-- The characters of a type code and of modifiers. -/
def inCode (character : Char) : Bool :=
  character != ' ' && character != '/'

def inLiteral (character : Char) : Bool :=
  character.isAlphanum || character == '_' || character == '.' || character == '-'

/-- Take the longest non-empty run of characters of a class. -/
def takeRun? (inClass : Char → Bool) (text : List Char) : Option (List Char × List Char) :=
  match text.takeWhile inClass with
  | [] => none
  | run => some (run, text.dropWhile inClass)

def skipSpaces? : List Char → Option (List Char)
  | ' ' :: rest => some (rest.dropWhile (· == ' '))
  | _ => none

def takeName? : List Char → Option (List Char × List Char)
  | first :: rest =>
      if beginsName first then
        some (first :: rest.takeWhile continuesName, rest.dropWhile continuesName)
      else
        none
  | [] => none

theorem length_lt_of_dropWhile_eq_cons {inClass : Char → Bool} {first : Char}
    {text rest : List Char} (dropped : text.dropWhile inClass = first :: rest) :
    rest.length < text.length := by
  have bound := (List.dropWhile_suffix inClass (l := text)).length_le
  rw [dropped] at bound
  exact bound

/-- Take bracketed dimensions up to the first character that opens none.  An
open bracket must be closed, and its token must hold more than blanks. -/
def takeDimensions? (text : List Char) : Option (List (List Char) × List Char) :=
  match text with
  | '[' :: rest =>
      let token := rest.takeWhile inDimension
      match _closing : rest.dropWhile inDimension with
      | ']' :: after =>
          if token.all Text.isBlank then
            none
          else
            (takeDimensions? after).map fun (tokens, remainder) =>
              (token :: tokens, remainder)
      | _ => none
  | _ => some ([], text)
termination_by text.length
decreasing_by exact Nat.lt_succ_of_lt (length_lt_of_dropWhile_eq_cons _closing)

def takeCode? : List Char → Option (List Char × List Char)
  | '/' :: rest => takeRun? inCode rest
  | _ => none

/-- Take the modifiers if a second slash announces them. -/
def takeModifiers? : List Char → Option (List Char × List Char)
  | '/' :: rest => takeRun? inCode rest
  | text => some ([], text)

/-- Take the initializer if an equals sign stands behind spaces.  The literal
itself also stands behind spaces. -/
def takeInitializer? (text : List Char) : Option (List Char × List Char) :=
  match skipSpaces? text with
  | some ('=' :: rest) => (skipSpaces? rest).bind (takeRun? inLiteral)
  | _ => some ([], text)

/-- Take the comment, which reaches to the end of the line. -/
def takeComment? : List Char → Option (List Char)
  | [] => some []
  | text =>
      match skipSpaces? text with
      | some ('/' :: '/' :: body) =>
          if body.isEmpty || body.contains '\n' then
            none
          else
            some (' ' :: '/' :: '/' :: body)
      | _ => none

/-- Read the parts of a line whose terminator is already dropped. -/
def ofCharacters? (text : List Char) : Option Definition := do
  let (name, text) ← takeName? text
  let (dimensions, text) ← takeDimensions? text
  let (code, text) ← takeCode? text
  let (modifiers, text) ← takeModifiers? text
  let (initializer, text) ← takeInitializer? text
  let comment ← takeComment? text
  return {
    name := String.ofList name
    dimensions := dimensions.map String.ofList
    code := String.ofList code
    modifiers := String.ofList modifiers
    initializer := String.ofList initializer
    comment := String.ofList comment
  }

def ofLine? (line : String) : Option Definition :=
  ofCharacters? (Text.dropTerminator line.toList)

/-- Write a definition as a line, with the shape in brackets and single spaces
around the equals sign. -/
def render (definition : Definition) : String :=
  definition.name ++ (Shape.ofTokens definition.dimensions).bracketed ++
    "/" ++ definition.code ++
    (if definition.modifiers = "" then "" else "/" ++ definition.modifiers) ++
    (if definition.initializer = "" then "" else " = " ++ definition.initializer) ++
    definition.comment

end Definition

end ColumnCode

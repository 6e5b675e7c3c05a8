import ColumnCode.Definition
import ColumnCode.Event
import ColumnCode.Scalar
import ColumnCode.Shape
import ColumnCode.Statement

/-!
# Branches

A branch is one column as its definition means it: the type code is looked up,
the dimensions are classified and the modifier letters are turned into
properties.
-/

namespace ColumnCode

/-- The properties that modifier letters give a branch. -/
structure Modifiers where
  transient : Bool
  mutable : Bool
  deriving DecidableEq, Repr

namespace Modifiers

/-- The letter that keeps a branch out of persistent storage. -/
def transientLetter : Char := '!'

/-- The letter that lets records change a branch in place. -/
def mutableLetter : Char := 'm'

/-- The properties that the letters give.  Order and repetition do not matter,
and letters without a meaning give nothing. -/
def ofLetters (letters : List Char) : Modifiers where
  transient := letters.contains transientLetter
  mutable := letters.contains mutableLetter

def unknownLetters (letters : List Char) : List Char :=
  letters.filter fun letter => letter != transientLetter && letter != mutableLetter

def letters (modifiers : Modifiers) : List Char :=
  (if modifiers.transient then [transientLetter] else []) ++
    (if modifiers.mutable then [mutableLetter] else [])

@[simp]
theorem ofLetters_letters (modifiers : Modifiers) : ofLetters modifiers.letters = modifiers := by
  rcases modifiers with ⟨transient, mutable⟩
  cases transient <;> cases mutable <;> rfl

end Modifiers

/-- One column of a storage. -/
structure Branch where
  name : String
  scalar : Scalar
  shape : Shape
  modifiers : Modifiers
  initializer : String
  comment : String
  deriving DecidableEq, Repr

namespace Branch

def isArray (branch : Branch) : Bool :=
  !branch.shape.isScalar

def memberType (branch : Branch) : String :=
  branch.shape.wrap branch.scalar.typeName

/-- The value the branch is reset to: its initializer, or the zero of its
scalar type. -/
def resetValue (branch : Branch) : String :=
  if branch.initializer = "" then branch.scalar.zero else branch.initializer

def resetStatement (branch : Branch) : Statement :=
  Statement.fill branch.resetValue branch.name 0 branch.shape.rank

/-- The branch that a definition means, unless its code is no scalar type. -/
def ofDefinition (definition : Definition) : Except Reason Branch :=
  match Scalar.ofCode? definition.code with
  | none => .error (.unknownType definition.code)
  | some scalar => .ok {
      name := definition.name
      scalar := scalar
      shape := Shape.ofTokens definition.dimensions
      modifiers := Modifiers.ofLetters definition.modifiers.toList
      initializer := definition.initializer
      comment := definition.comment
    }

/-- The warnings that a definition gives rise to: one for each modifier letter
without a meaning. -/
def warnings (definition : Definition) : List Event :=
  (Modifiers.unknownLetters definition.modifiers.toList).map
    (.unknownModifier definition.name)

/-- Read the definition of a branch.  Warnings are reported only when the line
is accepted. -/
def read (line : String) : Logged (Except Rejection Branch) :=
  match Definition.ofLine? line with
  | none => pure (.error (.ofLine line .grammar))
  | some definition =>
      match ofDefinition definition with
      | .error reason => pure (.error (.ofLine line reason))
      | .ok branch => do
          Logged.report (warnings definition)
          return .ok branch

def definition (branch : Branch) : Definition where
  name := branch.name
  dimensions := branch.shape.spellings
  code := String.singleton branch.scalar.letter
  modifiers := String.ofList branch.modifiers.letters
  initializer := branch.initializer
  comment := branch.comment

def render (branch : Branch) : String :=
  branch.definition.render

/-- The line of a branch shows its parts in order, the shape in brackets. -/
theorem render_eq (branch : Branch) :
    branch.render =
      branch.name ++ branch.shape.bracketed ++ "/" ++ String.singleton branch.scalar.letter ++
        (if String.ofList branch.modifiers.letters = "" then "" else
          "/" ++ String.ofList branch.modifiers.letters) ++
        (if branch.initializer = "" then "" else " = " ++ branch.initializer) ++
        branch.comment := by
  have brackets : (Shape.ofTokens branch.shape.spellings).bracketed = branch.shape.bracketed := by
    rw [Shape.bracketed, Shape.spellings_ofTokens, ← Shape.bracketed]
  rw [render, Definition.render, definition, brackets]

end Branch

end ColumnCode

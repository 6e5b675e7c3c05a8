import ColumnCode.Branch
import ColumnCode.Target.Basic
import ColumnCode.Vocabulary

/-!
# Generated code

A target is the class that code is generated for.  This file says which lines
each operation contributes for one branch, and how each constructor initializes
one branch.
-/

namespace ColumnCode

/-- The class that code is generated for, and the names it uses. -/
structure Target where
  role : Role
  backing : Backing := .array
  vocabulary : Vocabulary := .standard
  deriving DecidableEq, Repr

namespace Target

def usesVectors (target : Target) : Bool :=
  target.role == .storage && target.backing == .vector

/-- The object that tells the columns of one instance from those of another.
An entry has one instance only. -/
def owner? (target : Target) : Option String :=
  match target.role with
  | .storage | .element => some target.vocabulary.storageName
  | .cached => some target.vocabulary.recordName
  | .entry => none

def fullName (target : Target) (branch : Branch) : String :=
  target.vocabulary.nameType ++ "(" ++
    (match target.owner? with
      | some owner => owner ++ ", "
      | none => "") ++
    "\"" ++ branch.name ++ "\")"

def pointerName (branch : Branch) : String :=
  branch.name ++ "Ptr_"

def vectorType (branch : Branch) : String :=
  "std::vector<" ++ branch.memberType ++ ">"

def address (target : Target) (branch : Branch) : String :=
  if target.usesVectors then
    "&" ++ pointerName branch
  else if target.role == .storage || branch.isArray then
    branch.name
  else
    "&" ++ branch.name

def declarator (target : Target) (branch : Branch) : String :=
  match target.role, target.backing with
  | .storage, .vector => vectorType branch ++ " " ++ branch.name ++ ";"
  | .storage, .array => branch.memberType ++ "* " ++ branch.name ++ "\x7b0\x7d;"
  | .cached, _ | .entry, _ =>
      (if branch.modifiers.mutable then "mutable " else "") ++ branch.memberType ++ " " ++
        branch.name ++ "\x7b" ++ branch.initializer ++ "\x7d;"
  | .element, _ => branch.memberType ++ "& " ++ branch.name ++ ";"

/-- The declaration of a branch, with a note when it is transient.  Only the
storage leaves the comment of the definition out. -/
def declaration (target : Target) (branch : Branch) : String :=
  target.declarator branch ++ (if branch.modifiers.transient then " // transient" else "") ++
    (if target.role == .storage then "" else branch.comment)

def pointerDeclaration (branch : Branch) : String :=
  vectorType branch ++ "* " ++ pointerName branch ++ "\x7b&" ++ branch.name ++ "\x7d;"

def allocation (target : Target) (branch : Branch) : List String :=
  match target.backing with
  | .vector => [branch.name ++ ".resize(" ++ target.vocabulary.capacity ++ ");"]
  | .array =>
      [branch.name ++ " = new " ++ branch.memberType ++ "[" ++ target.vocabulary.capacity ++ "];"]

def deallocation (target : Target) (branch : Branch) : List String :=
  match target.backing with
  | .vector => [branch.name ++ ".resize(0);"]
  | .array => ["delete [] " ++ branch.name ++ ";", branch.name ++ " = 0;"]

/-- Copy a branch from another object: an array by its bytes, a scalar by
assignment. -/
def assignment (target : Target) (branch : Branch) : String :=
  let source := target.vocabulary.origin ++ "." ++ branch.name
  if branch.isArray then
    "std::memcpy(" ++ branch.name ++ ", " ++ source ++ ", sizeof(" ++ branch.scalar.typeName ++
      ") * " ++ branch.shape.product ++ ");"
  else
    branch.name ++ " = " ++ source ++ ";"

/-- One dimension in a booking format.  A literal stands in it by its value and
a symbol by a placeholder. -/
def formatDimension : Dimension → String
  | .literal _ value => "[" ++ toString value.toNat ++ "]"
  | .symbol _ => "[%d]"

def formatArgument? : Dimension → Option String
  | .literal .. => none
  | .symbol spelling => some spelling

def formattedShape (target : Target) (shape : Shape) : String :=
  target.vocabulary.formatter ++ "(" ++
    ", ".intercalate
      (("\"" ++ String.join (shape.dimensions.map formatDimension) ++ "\"") ::
        shape.dimensions.filterMap formatArgument?) ++
    ")"

/-- The shape that a branch is booked with.  A storage puts the size of one
entry before the dimensions. -/
def bookedShape (target : Target) (branch : Branch) : String :=
  if branch.isArray then
    (if target.role == .storage then target.vocabulary.entrySize ++ " + " else "") ++
      target.formattedShape branch.shape
  else if target.role == .storage then
    target.vocabulary.entrySize
  else
    "\"\""

def runtimeCall (target : Target) (function : String) (branch : Branch)
    (arguments : List String) : String :=
  target.vocabulary.runtimeFunction function ++ "(" ++
    ", ".intercalate (target.vocabulary.tree :: target.fullName branch :: arguments) ++ ");"

def enabling (target : Target) (branch : Branch) : String :=
  target.runtimeCall "setStatus" branch [target.vocabulary.selection]

def binding (target : Target) (branch : Branch) : String :=
  target.runtimeCall "setAddress" branch
    [target.address branch, target.vocabulary.selection, target.vocabulary.enableFlag]

/-- Create a persistent branch.  A vector is booked by its type, and anything
else by its shape and the letter of its scalar type. -/
def booking (target : Target) (branch : Branch) : String :=
  target.runtimeCall "book" branch
    ((if target.usesVectors then
        ["\"" ++ vectorType branch ++ "\""]
      else
        [target.bookedShape branch, "'" ++ String.singleton branch.scalar.letter ++ "'"]) ++
      [target.address branch, target.vocabulary.selection])

def releasing (target : Target) (branch : Branch) : String :=
  target.runtimeCall "resetAddress" branch []

/-- The expression whose value is printed for a branch. -/
def printedValue (branch : Branch) : String :=
  match branch.scalar.printedAs? with
  | some wider =>
      if branch.isArray then
        branch.name
      else
        "static_cast<const " ++ wider.typeName ++ ">(" ++ branch.name ++ ")"
  | none => branch.name

def printing (target : Target) (branch : Branch) : String :=
  target.vocabulary.printStream ++ " << " ++ target.vocabulary.printIndent ++ " << \"" ++
    branch.name ++ " = \" << " ++ printedValue branch ++ " << std::endl;"

/-- Whether an operation treats a branch at all. -/
def treats (target : Target) (operation : Operation) (branch : Branch) : Bool :=
  operation.supportedBy target.role target.backing &&
    !(operation.callsRuntime && branch.modifiers.transient)

def body (target : Target) (operation : Operation) (branch : Branch) : List String :=
  match operation with
  | .declare => [target.declaration branch]
  | .declarePointer => [pointerDeclaration branch]
  | .allocate => target.allocation branch
  | .deallocate => target.deallocation branch
  | .assign => [target.assignment branch]
  | .reset => [branch.resetStatement.render]
  | .enable => [target.enabling branch]
  | .bind => [target.binding branch]
  | .book => [target.booking branch]
  | .release => [target.releasing branch]
  | .dump => [target.printing branch]

def code (target : Target) (operation : Operation) (branch : Branch) : List String :=
  if target.treats operation branch then target.body operation branch else []

def codeAll (target : Target) (operation : Operation) (branches : List Branch) : List String :=
  branches.flatMap (target.code operation)

/-- How a constructor initializes a branch.  A record copies scalars here and
leaves arrays to its assignments. -/
def initializer? (target : Target) (constructor : Constructor) (branch : Branch) :
    Option String :=
  let vocabulary := target.vocabulary
  match target.role, constructor with
  | .element, .positioned =>
      some (branch.name ++ "(" ++ vocabulary.givenStore ++ "." ++ branch.name ++ "[" ++
        vocabulary.givenPosition ++ "])")
  | .element, _ =>
      some (branch.name ++ "(" ++ vocabulary.ownStore ++ "." ++ branch.name ++ "[0])")
  | .cached, .copying | .entry, .copying =>
      if branch.isArray then
        none
      else
        some (branch.name ++ "(" ++ vocabulary.origin ++ "." ++ branch.name ++ ")")
  | _, _ => none

def initializers (target : Target) (constructor : Constructor) (branches : List Branch) :
    List String :=
  branches.filterMap (target.initializer? constructor)

end Target

end ColumnCode

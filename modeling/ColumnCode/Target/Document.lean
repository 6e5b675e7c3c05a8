import ColumnCode.Event
import ColumnCode.Listing
import ColumnCode.Target.Code

/-!
# Documents

All code for a class is a document: a sequence of titled sections, one for
each operation that applies, with the constructors behind the declarations.
Every section is written for itself first, and a section without code is left
out.
-/

namespace ColumnCode

/-- Add code under a title: the title as a comment, the code, and an empty line.
Without code nothing is added. -/
def Listing.addSection (listing : Listing) (title : String) (code : Listing) : Listing :=
  if code.isEmpty then
    listing
  else
    ((listing.addLine ("// " ++ title)).addText code.text).addLine ""

namespace Target

/-- The operations of the class, in order. -/
def operations (target : Target) : List Operation :=
  Operation.all.filter fun operation => operation.supportedBy target.role target.backing

/-- Add the code of an operation for all branches to a listing. -/
def write (target : Target) (operation : Operation) (branches : List Branch)
    (listing : Listing) : Logged Listing := do
  Logged.report [.generating operation target.role branches.length]
  return listing.addLines (target.codeAll operation branches)

/-- Add the section of a constructor to a listing. -/
def addConstructor (target : Target) (branches : List Branch) (listing : Listing)
    (constructor : Constructor) : Listing :=
  listing.addSection constructor.label
    (Listing.empty.addLines (target.initializers constructor branches))

/-- Add the section of an operation to a listing, and behind the declarations
those of the constructors. -/
def addOperation (target : Target) (branches : List Branch) (listing : Listing)
    (operation : Operation) : Logged Listing := do
  let code ← target.write operation branches Listing.empty
  let listing := listing.addSection operation.label code
  if operation = .declare then
    return Constructor.all.foldl (target.addConstructor branches) listing
  else
    return listing

def document (target : Target) (branches : List Branch) : Logged Listing :=
  target.operations.foldlM (target.addOperation branches) Listing.empty

theorem events_addOperation (target : Target) (branches : List Branch) (listing : Listing)
    (operation : Operation) :
    (target.addOperation branches listing operation).events =
      (target.write operation branches Listing.empty).events := by
  rw [addOperation, Logged.events_bind]
  split <;> exact List.append_nil _

/-- A document reports what writing its operations reports, one after the
other. -/
theorem events_document (target : Target) (branches : List Branch) :
    (target.document branches).events =
      target.operations.flatMap fun operation =>
        (target.write operation branches Listing.empty).events :=
  Logged.events_foldlM (target.events_addOperation branches) target.operations Listing.empty

end Target

end ColumnCode

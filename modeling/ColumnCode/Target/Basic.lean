/-!
# Roles, storage and operations

Code is generated for one of four classes.  The class decides which operations
and which constructors it has; the storage class also chooses how it holds its
columns.
-/

namespace ColumnCode

/-- The class that code is generated for: the column storage itself, a record
that caches its values, a record for a whole entry, or an element that refers
into a storage. -/
inductive Role where
  | storage
  | cached
  | entry
  | element
  deriving DecidableEq, Repr

namespace Role

def all : List Role :=
  [storage, cached, entry, element]

def word : Role → String
  | storage => "storage"
  | cached => "cached"
  | entry => "entry"
  | element => "element"

def ofWord? (word : String) : Option Role :=
  all.find? fun role => role.word == word

def label : Role → String
  | storage => "storage"
  | cached => "cached record"
  | entry => "entry record"
  | element => "element"

def holdsValues : Role → Bool
  | cached | entry => true
  | _ => false

end Role

/-- How a storage holds the values of one column. -/
inductive Backing where
  | array
  | vector
  deriving DecidableEq, Repr

def Backing.ofVectorChoice (vector : Bool) : Backing :=
  if vector then .vector else .array

/-- What a class does with each of its columns. -/
inductive Operation where
  | declare
  | declarePointer
  | allocate
  | deallocate
  | assign
  | reset
  | enable
  | bind
  | book
  | release
  | dump
  deriving DecidableEq, Repr

namespace Operation

/-- All operations, in the order in which a document shows them. -/
def all : List Operation :=
  [declare, declarePointer, allocate, deallocate, assign, reset, enable, bind, book, release, dump]

def label : Operation → String
  | declare => "declare"
  | declarePointer => "declare vector pointers"
  | allocate => "allocate"
  | deallocate => "deallocate"
  | assign => "assign"
  | reset => "initialize"
  | enable => "register status"
  | bind => "bind address"
  | book => "book"
  | release => "release"
  | dump => "dump"

/-- Whether the operation calls the persistence runtime.  Transient columns
take no part in such an operation. -/
def callsRuntime : Operation → Bool
  | enable | bind | book | release => true
  | _ => false

def supportedBy (operation : Operation) (role : Role) (backing : Backing) : Bool :=
  match operation with
  | declarePointer => role == .storage && backing == .vector
  | allocate | deallocate => role == .storage
  | assign => role != .element
  | _ => true

end Operation

/-- The constructors of a class: without arguments, from a store and a
position, and from another object of the class. -/
inductive Constructor where
  | plain
  | positioned
  | copying
  deriving DecidableEq, Repr

namespace Constructor

/-- All constructors, in the order in which a document shows them. -/
def all : List Constructor :=
  [plain, positioned, copying]

def label : Constructor → String
  | plain => "default-init"
  | positioned => "standard-init"
  | copying => "copy-init"

/-- Whether a class with this role lists its columns in the constructor. -/
def supportedBy (constructor : Constructor) (role : Role) : Bool :=
  match constructor with
  | plain | positioned => role == .element
  | copying => role == .element || role.holdsValues

end Constructor

end ColumnCode

/-!
# Vocabularies

Generated code mentions objects and functions that it does not define.  A
vocabulary fixes their names; each name is copied into the code as it is.
-/

namespace ColumnCode

/-- The names that generated code takes from its surroundings. -/
structure Vocabulary where
  /-- The namespace of the persistence functions. -/
  runtime : String := "panda::utils"
  /-- The type that builds the full name of a column. -/
  nameType : String := "BranchName"
  /-- The function that formats the dimensions of an array column. -/
  formatter : String := "TString::Format"
  /-- The store of the columns. -/
  tree : String := "_tree"
  /-- The list of the columns to treat. -/
  selection : String := "_branches"
  /-- The flag that asks for columns to be enabled when they are bound. -/
  enableFlag : String := "_setStatus"
  /-- The name of the storage. -/
  storageName : String := "_name"
  /-- The name of a cached record. -/
  recordName : String := "name_"
  /-- The number of entries that a storage has room for. -/
  capacity : String := "nmax_"
  /-- The text that stands for the size of one entry in a storage. -/
  entrySize : String := "size"
  /-- The object that values are copied from. -/
  origin : String := "_src"
  /-- The storage that an element without arguments refers into. -/
  ownStore : String := "gStore.getData(this)"
  /-- The storage that an element is constructed from. -/
  givenStore : String := "_data"
  /-- The position that an element is constructed from. -/
  givenPosition : String := "_idx"
  /-- The stream that values are printed to. -/
  printStream : String := "_out"
  /-- The indentation of printed values. -/
  printIndent : String := "indentation"
  deriving DecidableEq, Repr

namespace Vocabulary

/-- The vocabulary of a program that chooses no names of its own. -/
def standard : Vocabulary :=
  {}

/-- A persistence function with its namespace. -/
def runtimeFunction (vocabulary : Vocabulary) (function : String) : String :=
  if vocabulary.runtime = "" then function else vocabulary.runtime ++ "::" ++ function

end Vocabulary

end ColumnCode

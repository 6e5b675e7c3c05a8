import ColumnCode.Dimension

/-!
# Shapes

The shape of a column is its list of dimensions, outermost first.  The empty
list is the shape of a scalar column.
-/

namespace ColumnCode

/-- The dimensions of a column, outermost first. -/
structure Shape where
  dimensions : List Dimension
  deriving DecidableEq, Repr

namespace Shape

def ofTokens (tokens : List String) : Shape :=
  ⟨tokens.map Dimension.ofToken⟩

def rank (shape : Shape) : Nat :=
  shape.dimensions.length

def isScalar (shape : Shape) : Bool :=
  shape.dimensions.isEmpty

def spellings (shape : Shape) : List String :=
  shape.dimensions.map Dimension.spelling

/-- The shape in brackets, as a definition writes it. -/
def bracketed (shape : Shape) : String :=
  String.join (shape.spellings.map fun spelling => "[" ++ spelling ++ "]")

def arrayOf (element extent : String) : String :=
  "std::array<" ++ element ++ ", " ++ extent ++ ">"

/-- The array type with this shape.  The outermost dimension is the outermost
layer. -/
def wrap (shape : Shape) (element : String) : String :=
  shape.spellings.foldr (fun spelling inner => arrayOf inner spelling) element

/-- The product of the dimensions, as an expression.  It is empty for a
scalar. -/
def product (shape : Shape) : String :=
  " * ".intercalate shape.spellings

@[simp]
theorem spellings_ofTokens (tokens : List String) : (ofTokens tokens).spellings = tokens := by
  simp [ofTokens, spellings, Function.comp_def]

end Shape

end ColumnCode

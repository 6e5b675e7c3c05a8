import ColumnCode.Text.Lines

/-!
# Listings

Generated code is collected in a listing, by whole lines or by pieces of text.
-/

namespace ColumnCode

/-- The code collected so far. -/
structure Listing where
  text : String
  deriving DecidableEq, Repr

namespace Listing

def empty : Listing :=
  ⟨""⟩

def addText (listing : Listing) (text : String) : Listing :=
  ⟨listing.text ++ text⟩

def addLine (listing : Listing) (line : String) : Listing :=
  listing.addText (line ++ "\n")

def addLines (listing : Listing) (lines : List String) : Listing :=
  lines.foldl addLine listing

def isEmpty (listing : Listing) : Bool :=
  listing.text == ""

def lines (listing : Listing) : List String :=
  Text.lines listing.text

/-- Adding lines appends each of them with a newline. -/
theorem text_addLines (listing : Listing) (lines : List String) :
    (listing.addLines lines).text =
      listing.text ++ String.join (lines.map fun line => line ++ "\n") := by
  induction lines generalizing listing with
  | nil => simp [addLines]
  | cons line lines ih =>
      have step := ih (listing.addLine line)
      simp only [addLines, List.foldl_cons] at step ⊢
      rw [step]
      simp [addLine, addText, String.append_assoc]

end Listing

end ColumnCode

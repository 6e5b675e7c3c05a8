/-!
# Lines

A line carries its terminator.  Cutting a sequence into lines therefore loses
nothing: the lines joined again are the sequence.  The cut is the same for
characters and for bytes, so it is stated over any alphabet with a newline.
-/

namespace ColumnCode

namespace Text

/-- Cut a sequence after every newline.  Each line keeps its newline, and only
the last line can lack one. -/
def cutLines {symbol : Type} [DecidableEq symbol] (newline : symbol) :
    List symbol → List (List symbol)
  | [] => []
  | head :: rest =>
      if head = newline then
        [head] :: cutLines newline rest
      else
        match cutLines newline rest with
        | [] => [[head]]
        | line :: lines => (head :: line) :: lines

@[simp]
theorem flatten_cutLines {symbol : Type} [DecidableEq symbol] (newline : symbol)
    (symbols : List symbol) : (cutLines newline symbols).flatten = symbols := by
  induction symbols with
  | nil => rfl
  | cons head rest ih =>
      by_cases atEnd : head = newline
      · simp [cutLines, atEnd, ih]
      · cases lines : cutLines newline rest with
        | nil => simp_all [cutLines]
        | cons line lines => simp_all [cutLines]

/-- A line without its terminator: one line feed at the end is dropped, and
then one carriage return directly before it.  A carriage return that no line
feed follows belongs to the line. -/
def dropTerminator (line : List Char) : List Char :=
  match line.reverse with
  | '\n' :: '\r' :: rest => rest.reverse
  | '\n' :: rest => rest.reverse
  | _ => line

def lines (text : String) : List String :=
  (cutLines '\n' text.toList).map fun line => String.ofList (dropTerminator line)

end Text

end ColumnCode

/-!
# Occurrences

Markers are found anywhere in a line, so this file says when one sequence of
characters stands inside another.
-/

namespace ColumnCode

namespace Text

/-- Whether `pattern` stands somewhere in the characters. -/
def occurs (pattern : List Char) : List Char → Bool
  | [] => pattern.isEmpty
  | head :: rest => pattern.isPrefixOf (head :: rest) || occurs pattern rest

theorem occurs_iff {pattern characters : List Char} :
    occurs pattern characters = true ↔ pattern <:+: characters := by
  induction characters with
  | nil => simp [occurs]
  | cons head rest ih =>
      simp [occurs, ih, List.infix_cons_iff]

end Text

end ColumnCode

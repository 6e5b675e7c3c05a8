import ColumnCode.Text.Lines
import Mathlib.Data.List.Basic

/-!
# Lines and their terminators

The cut into lines undoes the ending of lines, and it does so at every level:
characters are cut into lines, and lines into groups that end with an empty
one.
-/

namespace ColumnCode

namespace Text

section Cutting

variable {symbol : Type} [DecidableEq symbol] {newline : symbol}

theorem cutLines_append {line : List symbol} (unbroken : newline ∉ line) (rest : List symbol) :
    cutLines newline (line ++ newline :: rest) =
      (line ++ [newline]) :: cutLines newline rest := by
  induction line with
  | nil => simp [cutLines]
  | cons head line ih =>
      simp only [List.mem_cons, not_or] at unbroken
      have different : head ≠ newline := fun same => unbroken.1 same.symm
      rw [List.cons_append, cutLines, if_neg different, ih unbroken.2]
      rfl

/-- A sequence without a newline is one line, unless it is empty. -/
theorem cutLines_of_not_mem {line : List symbol} (nonempty : line ≠ [])
    (unbroken : newline ∉ line) : cutLines newline line = [line] := by
  induction line with
  | nil => exact absurd rfl nonempty
  | cons head rest ih =>
      simp only [List.mem_cons, not_or] at unbroken
      have different : head ≠ newline := fun same => unbroken.1 same.symm
      rw [cutLines, if_neg different]
      cases rest with
      | nil => rfl
      | cons next rest => rw [ih (List.cons_ne_nil next rest) unbroken.2]

end Cutting

/-- A text and a line that holds it: the line is the text itself, or the text
before a line feed or before a carriage return and a line feed. -/
inductive Terminated (text : List Char) : List Char → Prop
  | unended (last : text.getLast? ≠ some '\n') : Terminated text text
  | lineFeed (last : text.getLast? ≠ some '\r') : Terminated text (text ++ ['\n'])
  | returnFeed : Terminated text (text ++ ['\r', '\n'])

/-- Dropping the terminator leaves the one text that the line holds. -/
theorem terminated_iff {text line : List Char} :
    Terminated text line ↔ dropTerminator line = text := by
  constructor
  · intro terminated
    cases terminated with
    | unended last =>
        rw [← List.head?_reverse] at last
        unfold dropTerminator
        split <;> simp_all
    | lineFeed last =>
        rw [← List.head?_reverse] at last
        simp only [dropTerminator, List.reverse_append, List.reverse_singleton,
          List.singleton_append]
        split
        next rest reversed => simp_all
        next rest notReturn reversed =>
          rw [← List.tail_eq_of_cons_eq reversed, List.reverse_reverse]
        next notReturn notFeed => exact absurd rfl (notFeed text.reverse)
    | returnFeed => simp [dropTerminator]
  · rintro rfl
    unfold dropTerminator
    split
    next rest reversed =>
      have line_eq : line = rest.reverse ++ ['\r', '\n'] := by
        simpa using congrArg List.reverse reversed
      exact line_eq ▸ .returnFeed
    next rest notReturn reversed =>
      have line_eq : line = rest.reverse ++ ['\n'] := by
        simpa using congrArg List.reverse reversed
      have last : rest.reverse.getLast? ≠ some '\r' := by
        intro ended
        rw [List.getLast?_reverse] at ended
        obtain ⟨before, rfl⟩ : ∃ before, rest = '\r' :: before := by
          cases rest with
          | nil => simp at ended
          | cons head before => exact ⟨before, by simpa using ended⟩
        exact notReturn before rfl
      exact line_eq ▸ .lineFeed last
    next notReturn notFeed =>
      refine .unended fun ended => ?_
      rw [← List.head?_reverse] at ended
      cases reversed : line.reverse with
      | nil => simp [reversed] at ended
      | cons head rest =>
          rw [reversed, List.head?_cons, Option.some.injEq] at ended
          exact notFeed rest (ended ▸ reversed)

end Text

end ColumnCode

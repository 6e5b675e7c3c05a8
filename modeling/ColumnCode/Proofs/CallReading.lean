import ColumnCode.Proofs.Readers

/-!
# Reading the arguments of a call

A call is read from its front.  The function ends at the first parenthesis, and
an argument ends at the first comma or closing bracket that stands neither in
brackets nor in quotes.  Code that closes all brackets and quotes it opens has no
such place inside, so the arguments of a call are found as they were written.
-/

namespace ColumnCode

/-- Where a reader of code stands: behind a number of open brackets, and there
outside of quotes, in quotes, or behind the backslash of an escape. -/
inductive Standing where
  | code (depth : Nat)
  | quoted (depth : Nat)
  | escaped (depth : Nat)
  deriving DecidableEq, Repr

namespace Standing

def opens (character : Char) : Bool :=
  character == '(' || character == '[' || character == '\x7b'

def closes (character : Char) : Bool :=
  character == ')' || character == ']' || character == '\x7d'

/-- Where the reader stands behind one more character, unless an argument ends
in front of it. -/
def advance? : Standing → Char → Option Standing
  | code depth, character =>
      if character = '"' then
        some (quoted depth)
      else if opens character then
        some (code (depth + 1))
      else if closes character then
        if depth = 0 then none else some (code (depth - 1))
      else if character = ',' ∧ depth = 0 then
        none
      else
        some (code depth)
  | quoted depth, character =>
      if character = '"' then
        some (code depth)
      else if character = '\\' then
        some (escaped depth)
      else
        some (quoted depth)
  | escaped depth, _ => some (quoted depth)

/-- The same place behind one more open bracket. -/
def deeper : Standing → Standing
  | code depth => code (depth + 1)
  | quoted depth => quoted (depth + 1)
  | escaped depth => escaped (depth + 1)

/-- What does not end an argument does not end it behind more open brackets. -/
theorem advance?_deeper {standing next : Standing} {character : Char}
    (advances : standing.advance? character = some next) :
    standing.deeper.advance? character = some next.deeper := by
  cases standing with
  | code depth =>
      have notFirst : depth + 1 ≠ 0 := Nat.succ_ne_zero depth
      simp only [advance?] at advances
      split_ifs at advances with quote opening closing atFirst comma
      · cases advances
        simp [advance?, deeper, quote]
      · cases advances
        simp [advance?, deeper, quote, opening]
      · cases advances
        simp only [advance?, deeper, quote, opening, closing, notFirst, if_false, if_true]
        exact congrArg (some ∘ code) (by omega)
      · cases advances
        simp [advance?, deeper, quote, opening, closing]
  | quoted depth =>
      simp only [advance?] at advances
      split_ifs at advances with quote escape
      all_goals cases advances; simp [advance?, deeper, *]
  | escaped depth =>
      cases advances
      rfl

end Standing

open Standing (code quoted advance?)

/-- Code that can stand as an argument: it closes all that it opens and has no
comma outside. -/
def IsWhole (text : String) : Prop :=
  text.toList.foldlM advance? (code 0) = some (code 0)

instance (text : String) : Decidable (IsWhole text) :=
  inferInstanceAs (Decidable (text.toList.foldlM advance? (code 0) = some (code 0)))

/-- Take the characters up to the one in front of which the argument ends. -/
def takeArgument (standing : Standing) : List Char → List Char × List Char
  | [] => ([], [])
  | character :: rest =>
      match standing.advance? character with
      | none => ([], character :: rest)
      | some next =>
          let (taken, remainder) := takeArgument next rest
          (character :: taken, remainder)

/-- The argument with a number among those at the front of a text.  It must end
with a comma or with the parenthesis that closes the call. -/
def argumentAt? : Nat → List Char → Option String
  | 0, text =>
      match takeArgument (code 0) text with
      | (argument, ',' :: _) => some (String.ofList argument)
      | (argument, ')' :: _) => some (String.ofList argument)
      | _ => none
  | number + 1, text =>
      match (takeArgument (code 0) text).2 with
      | ',' :: ' ' :: others => argumentAt? number others
      | _ => none

/-- The argument with a number in a line that begins with a call.  The first
argument has number zero. -/
def argument? (line : String) (number : Nat) : Option String :=
  match line.toList.dropWhile (· != '(') with
  | '(' :: text => argumentAt? number text
  | _ => none

section Scanning

variable {standing next : Standing} {text rest : List Char}

theorem foldlM_deeper (scanned : text.foldlM advance? standing = some next) :
    text.foldlM advance? standing.deeper = some next.deeper := by
  induction text generalizing standing with
  | nil =>
      obtain rfl : standing = next := Option.some.inj scanned
      rfl
  | cons character text ih =>
      rw [List.foldlM_cons] at scanned
      obtain ⟨middle, advances, scanned⟩ := Option.bind_eq_some_iff.mp scanned
      rw [List.foldlM_cons, Standing.advance?_deeper advances]
      exact ih scanned

/-- Whole code is whole behind any number of open brackets. -/
theorem IsWhole.foldlM_code {text : String} (whole : IsWhole text) (depth : Nat) :
    text.toList.foldlM advance? (code depth) = some (code depth) := by
  induction depth with
  | zero => exact whole
  | succ depth ih => exact foldlM_deeper ih

theorem IsWhole.append {first second : String} (isFirst : IsWhole first)
    (isSecond : IsWhole second) : IsWhole (first ++ second) := by
  unfold IsWhole at isFirst ⊢
  rw [String.toList_append, List.foldlM_append, isFirst]
  exact isSecond

/-- Characters that neither begin nor end anything leave the reader where it
is. -/
theorem foldlM_eq_self (inert : ∀ character ∈ text, standing.advance? character = some standing) :
    text.foldlM advance? standing = some standing := by
  induction text with
  | nil => rfl
  | cons character text ih =>
      obtain ⟨first, others⟩ := List.forall_mem_cons.mp inert
      rw [List.foldlM_cons, first]
      exact ih others

/-- The reader takes what it can scan and goes on behind it. -/
theorem takeArgument_append (scanned : text.foldlM advance? standing = some next) :
    takeArgument standing (text ++ rest) =
      (text ++ (takeArgument next rest).1, (takeArgument next rest).2) := by
  induction text generalizing standing with
  | nil =>
      obtain rfl : standing = next := Option.some.inj scanned
      rfl
  | cons character text ih =>
      rw [List.foldlM_cons] at scanned
      obtain ⟨middle, advances, scanned⟩ := Option.bind_eq_some_iff.mp scanned
      rw [List.cons_append, takeArgument, advances]
      simp only [ih scanned, List.cons_append]

theorem IsWhole.takeArgument_append {text : String} (whole : IsWhole text) {last : Char}
    (ends : Standing.advance? (code 0) last = none) :
    takeArgument (code 0) (text.toList ++ last :: rest) = (text.toList, last :: rest) := by
  have stopped : takeArgument (code 0) (last :: rest) = ([], last :: rest) := by
    rw [takeArgument, ends]
  rw [ColumnCode.takeArgument_append whole, stopped, List.append_nil]

theorem IsWhole.argumentAt?_before_comma {text : String} (whole : IsWhole text) :
    argumentAt? 0 (text.toList ++ ',' :: rest) = some text := by
  rw [argumentAt?, whole.takeArgument_append (by decide)]
  simp

theorem IsWhole.argumentAt?_last {text : String} (whole : IsWhole text) :
    argumentAt? 0 (text.toList ++ ')' :: rest) = some text := by
  rw [argumentAt?, whole.takeArgument_append (by decide)]
  simp

theorem IsWhole.argumentAt?_behind {text : String} (whole : IsWhole text) (number : Nat) :
    argumentAt? (number + 1) (text.toList ++ ',' :: ' ' :: rest) = argumentAt? number rest := by
  rw [argumentAt?, whole.takeArgument_append (by decide)]
  rfl

end Scanning

theorem toList_arguments_cons_cons (first second : String) (others : List String) :
    (", ".intercalate (first :: second :: others)).toList =
      first.toList ++ ',' :: ' ' :: (", ".intercalate (second :: others)).toList := by
  simp [String.intercalate_cons_cons]

/-- The arguments of a call are found one by one, as long as they are whole. -/
theorem argumentAt?_intercalate {arguments : List String} {number : Nat} {argument : String}
    (listed : arguments[number]? = some argument)
    (whole : ∀ other ∈ arguments.take (number + 1), IsWhole other) (rest : List Char) :
    argumentAt? number ((", ".intercalate arguments).toList ++ ')' :: rest) = some argument := by
  induction number generalizing arguments with
  | zero =>
      cases arguments with
      | nil => cases listed
      | cons first others =>
          obtain rfl : first = argument := Option.some.inj listed
          have isWhole : IsWhole first := whole first (by simp)
          cases others with
          | nil =>
              rw [String.intercalate_singleton]
              exact isWhole.argumentAt?_last
          | cons second others =>
              rw [toList_arguments_cons_cons, List.append_assoc]
              exact isWhole.argumentAt?_before_comma
  | succ number ih =>
      cases arguments with
      | nil => cases listed
      | cons first others =>
          have isWhole : IsWhole first := whole first (by simp)
          have wholeOthers : ∀ other ∈ others.take (number + 1), IsWhole other := by
            intro other member
            exact whole other (by simp [member])
          cases others with
          | nil => cases listed
          | cons second others =>
              rw [toList_arguments_cons_cons, List.append_assoc]
              exact (isWhole.argumentAt?_behind number).trans (ih listed wholeOthers)

theorem argument?_call {function : String} (plain : '(' ∉ function.toList)
    {arguments : List String} {number : Nat} {argument : String}
    (listed : arguments[number]? = some argument)
    (whole : ∀ other ∈ arguments.take (number + 1), IsWhole other) :
    argument? (function ++ "(" ++ ", ".intercalate arguments ++ ");") number = some argument := by
  have inside : ∀ character ∈ function.toList, (character != '(') = true := by
    intro character member
    apply bne_iff_ne.mpr
    rintro rfl
    exact plain member
  have text : (function ++ "(" ++ ", ".intercalate arguments ++ ");").toList =
      function.toList ++ '(' :: ((", ".intercalate arguments).toList ++ [')', ';']) := by
    simp
  have stops : Definition.Stops (· != '(')
      ('(' :: ((", ".intercalate arguments).toList ++ [')', ';'])) :=
    Definition.stops_cons.mpr (by decide)
  rw [argument?, text, Definition.dropWhile_of_stops inside stops]
  exact argumentAt?_intercalate listed whole [';']

/-- A comma in brackets or in quotes is a part of the argument. -/
example : argument? "book(_tree, Name(_name, \"a,\\\"b\"), x);" 1 =
    some "Name(_name, \"a,\\\"b\")" := by
  decide +kernel

end ColumnCode

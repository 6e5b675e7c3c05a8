import ColumnCode.Definition
import Mathlib.Data.List.TakeWhile

/-!
# What each reader takes

Every reader of a definition line is described from the outside: it takes a
part with a given form, and what follows cannot continue that part.  The two
conditions leave one way to cut the text, so each description is an
equivalence and no later proof opens a reader.
-/

namespace ColumnCode

namespace Definition

/-- A non-empty run of characters of a class. -/
def IsRun (inClass : Char → Bool) (run : List Char) : Prop :=
  run ≠ [] ∧ ∀ character ∈ run, inClass character = true

/-- The text does not continue a run of the class before it. -/
def Stops (inClass : Char → Bool) (text : List Char) : Prop :=
  ∀ character ∈ text.head?, inClass character = false

def isSpace (character : Char) : Bool :=
  character == ' '

/-- A name begins with a letter or an underscore. -/
def IsName : List Char → Prop
  | [] => False
  | first :: others =>
      beginsName first = true ∧ ∀ character ∈ others, continuesName character = true

/-- A dimension token, which cannot be blank. -/
def IsToken (token : List Char) : Prop :=
  (∀ character ∈ token, inDimension character = true) ∧
    ∃ character ∈ token, Text.isBlank character = false

def bracketed (token : List Char) : List Char :=
  '[' :: (token ++ [']'])

section Runs

variable {inClass : Char → Bool} {text run rest : List Char}

theorem IsRun.not_mem (isRun : IsRun inClass run) {character : Char}
    (outside : inClass character = false) : character ∉ run := by
  intro member
  have inside := isRun.2 character member
  rw [outside] at inside
  exact Bool.false_ne_true inside

@[simp]
theorem stops_nil : Stops inClass [] := by
  simp [Stops]

@[simp]
theorem stops_cons {character : Char} :
    Stops inClass (character :: rest) ↔ inClass character = false := by
  simp [Stops]

theorem stops_of_forall_ne_cons {character : Char}
    (absent : ∀ rest, text = character :: rest → False) : Stops (· == character) text := by
  cases text with
  | nil => exact stops_nil
  | cons head text =>
      refine stops_cons.mpr (beq_eq_false_iff_ne.mpr ?_)
      rintro rfl
      exact absent text rfl

theorem stops_dropWhile : Stops inClass (text.dropWhile inClass) := by
  intro character member
  have notDropped := List.head?_dropWhile_not inClass text
  rw [Option.mem_def.mp member] at notDropped
  simpa using notDropped

theorem takeWhile_of_stops (inside : ∀ character ∈ run, inClass character = true)
    (stops : Stops inClass rest) : (run ++ rest).takeWhile inClass = run := by
  rw [List.takeWhile_append_of_pos inside]
  cases rest with
  | nil => simp
  | cons head rest => simp [stops_cons.mp stops]

theorem dropWhile_of_stops (inside : ∀ character ∈ run, inClass character = true)
    (stops : Stops inClass rest) : (run ++ rest).dropWhile inClass = rest := by
  rw [List.dropWhile_append_of_pos inside]
  cases rest with
  | nil => simp
  | cons head rest => simp [stops_cons.mp stops]

/-- Characters of a class and a text that does not continue them are found in
their join. -/
theorem run_injective {first second firstRest secondRest : List Char}
    (firstInside : ∀ character ∈ first, inClass character = true)
    (firstStops : Stops inClass firstRest)
    (secondInside : ∀ character ∈ second, inClass character = true)
    (secondStops : Stops inClass secondRest) (same : first ++ firstRest = second ++ secondRest) :
    first = second ∧ firstRest = secondRest := by
  constructor
  · rw [← takeWhile_of_stops firstInside firstStops, same,
      takeWhile_of_stops secondInside secondStops]
  · rw [← dropWhile_of_stops firstInside firstStops, same,
      dropWhile_of_stops secondInside secondStops]

theorem takeRun?_eq_some_iff :
    takeRun? inClass text = some (run, rest) ↔
      text = run ++ rest ∧ IsRun inClass run ∧ Stops inClass rest := by
  constructor
  · intro taken
    unfold takeRun? at taken
    split at taken
    next => simp at taken
    next nonempty =>
      obtain ⟨rfl, rfl⟩ : text.takeWhile inClass = run ∧ text.dropWhile inClass = rest := by
        simpa using taken
      refine ⟨List.takeWhile_append_dropWhile.symm, ⟨nonempty, ?_⟩, stops_dropWhile⟩
      exact fun character member => List.mem_takeWhile_imp member
  · rintro ⟨rfl, ⟨nonempty, inside⟩, stops⟩
    unfold takeRun?
    rw [takeWhile_of_stops inside stops, dropWhile_of_stops inside stops]
    split
    next => exact absurd rfl nonempty
    next => rfl

theorem skipSpaces?_eq_map : skipSpaces? text = (takeRun? isSpace text).map Prod.snd := by
  have isSpace_eq : isSpace = (· == ' ') := rfl
  cases text with
  | nil => rfl
  | cons head rest =>
      by_cases space : head = ' '
      · simp [skipSpaces?, takeRun?, isSpace_eq, space]
      · simp [skipSpaces?, takeRun?, isSpace_eq, space]

theorem skipSpaces?_eq_some_iff :
    skipSpaces? text = some rest ↔
      ∃ spaces, text = spaces ++ rest ∧ IsRun isSpace spaces ∧ Stops isSpace rest := by
  simp only [skipSpaces?_eq_map, Option.map_eq_some_iff, Prod.exists, takeRun?_eq_some_iff]
  constructor
  · rintro ⟨spaces, _, taken, rfl⟩
    exact ⟨spaces, taken⟩
  · rintro ⟨spaces, taken⟩
    exact ⟨spaces, rest, taken, rfl⟩

end Runs

section Parts

variable {text rest : List Char}

instance : DecidablePred IsName
  | [] => .isFalse id
  | first :: others =>
      decidable_of_iff (beginsName first = true ∧ others.all continuesName = true)
        (and_congr_right fun _ => List.all_eq_true)

theorem IsName.inside {name : List Char} (isName : IsName name) :
    ∀ character ∈ name, continuesName character = true := by
  cases name with
  | nil => exact isName.elim
  | cons first others =>
      rintro character (_ | ⟨_, member⟩)
      · have begins := isName.1
        simp only [beginsName, Bool.or_eq_true] at begins
        simpa [continuesName, Char.isAlphanum] using begins.imp_left .inl
      · exact isName.2 character member

theorem IsName.not_mem {name : List Char} (isName : IsName name) {character : Char}
    (outside : continuesName character = false) : character ∉ name := by
  intro member
  have inside := isName.inside character member
  rw [outside] at inside
  exact Bool.false_ne_true inside

theorem IsName.newline_not_mem {name : List Char} (isName : IsName name) : '\n' ∉ name :=
  isName.not_mem (by decide)

theorem IsToken.newline_not_mem {token : List Char} (isToken : IsToken token) : '\n' ∉ token := by
  intro member
  exact absurd (isToken.1 '\n' member) (by decide)

theorem takeName?_eq_some_iff {name : List Char} :
    takeName? text = some (name, rest) ↔
      text = name ++ rest ∧ IsName name ∧ Stops continuesName rest := by
  constructor
  · intro taken
    cases text with
    | nil => simp [takeName?] at taken
    | cons first text =>
        by_cases begins : beginsName first = true
        · obtain ⟨rfl, rfl⟩ : first :: text.takeWhile continuesName = name ∧
              text.dropWhile continuesName = rest := by
            simpa [takeName?, begins] using taken
          refine ⟨by simp, ⟨begins, ?_⟩, stops_dropWhile⟩
          exact fun character member => List.mem_takeWhile_imp member
        · simp [takeName?, begins] at taken
  · rintro ⟨rfl, isName, stops⟩
    cases name with
    | nil => exact isName.elim
    | cons first others =>
        obtain ⟨begins, inside⟩ := isName
        simp [takeName?, begins, takeWhile_of_stops inside stops, dropWhile_of_stops inside stops]

/-- A token is blank exactly when the reader finds nothing else in it. -/
theorem isToken_iff {token : List Char} :
    IsToken token ↔
      (∀ character ∈ token, inDimension character = true) ∧ token.all Text.isBlank = false := by
  simp [IsToken, List.all_eq_false]

instance : DecidablePred IsToken := fun token =>
  decidable_of_iff (token.all inDimension = true ∧ token.all Text.isBlank = false)
    ((and_congr_left fun _ => List.all_eq_true).trans isToken_iff.symm)

theorem takeDimensions?_of_stops (stops : Stops (· == '[') text) :
    takeDimensions? text = some ([], text) := by
  unfold takeDimensions?
  split
  next => simp at stops
  next => rfl

theorem takeDimensions?_bracketed {token : List Char} (isToken : IsToken token) :
    takeDimensions? (bracketed token ++ rest) =
      (takeDimensions? rest).map fun (tokens, remainder) => (token :: tokens, remainder) := by
  obtain ⟨inside, notBlank⟩ := isToken_iff.mp isToken
  have closes : Stops inDimension (']' :: rest) := stops_cons.mpr (by decide)
  rw [bracketed, List.cons_append, List.append_assoc, List.singleton_append, takeDimensions?,
    takeWhile_of_stops inside closes, notBlank]
  split
  next after closing =>
    rw [dropWhile_of_stops inside closes] at closing
    obtain rfl : rest = after := List.tail_eq_of_cons_eq closing
    rfl
  next unclosed => exact absurd (dropWhile_of_stops inside closes) (unclosed rest)

theorem takeDimensions?_eq_some_iff {tokens : List (List Char)} :
    takeDimensions? text = some (tokens, rest) ↔
      text = tokens.flatMap bracketed ++ rest ∧ (∀ token ∈ tokens, IsToken token) ∧
        Stops (· == '[') rest := by
  constructor
  · intro taken
    -- Each call of the reader takes one token off the front of the rest.
    fun_induction takeDimensions? text generalizing tokens rest with
    | case1 opened token after closing => simp at taken
    | case2 opened token after closing notBlank =>
        rename_i ih
        obtain ⟨others, takenAfter, rfl⟩ : ∃ others,
            takeDimensions? after = some (others, rest) ∧ token :: others = tokens := by
          simpa using taken
        obtain ⟨rfl, areTokens, stops⟩ := ih takenAfter
        have isToken : IsToken token :=
          isToken_iff.mpr ⟨fun character member => List.mem_takeWhile_imp member,
            by simpa using notBlank⟩
        have opened_eq : opened = token ++ ']' :: (others.flatMap bracketed ++ rest) := by
          rw [← closing]
          exact List.takeWhile_append_dropWhile.symm
        refine ⟨?_, List.forall_mem_cons.mpr ⟨isToken, areTokens⟩, stops⟩
        rw [opened_eq]
        simp [bracketed]
    | case3 opened token => simp at taken
    | case4 text unopened =>
        obtain ⟨rfl, rfl⟩ : [] = tokens ∧ text = rest := by simpa using taken
        exact ⟨rfl, by simp, stops_of_forall_ne_cons unopened⟩
  · rintro ⟨rfl, areTokens, stops⟩
    induction tokens with
    | nil => exact takeDimensions?_of_stops stops
    | cons token tokens ih =>
        obtain ⟨isToken, areTokens⟩ := List.forall_mem_cons.mp areTokens
        rw [List.flatMap_cons, List.append_assoc, takeDimensions?_bracketed isToken, ih areTokens]
        rfl

theorem takeCode?_eq_some_iff {code : List Char} :
    takeCode? text = some (code, rest) ↔
      text = '/' :: (code ++ rest) ∧ IsRun inCode code ∧ Stops inCode rest := by
  unfold takeCode?
  split
  next after => simp [takeRun?_eq_some_iff]
  next noSlash =>
    refine iff_of_false (by simp) ?_
    rintro ⟨rfl, -⟩
    exact noSlash _ rfl

theorem takeModifiers?_eq_some_iff {modifiers : List Char} :
    takeModifiers? text = some (modifiers, rest) ↔
      (modifiers = [] ∧ text = rest ∧ Stops (· == '/') text) ∨
        (text = '/' :: (modifiers ++ rest) ∧ IsRun inCode modifiers ∧ Stops inCode rest) := by
  unfold takeModifiers?
  split
  next after => simp [takeRun?_eq_some_iff]
  next noSlash =>
    constructor
    · intro taken
      obtain ⟨rfl, rfl⟩ : [] = modifiers ∧ text = rest := by simpa using taken
      exact .inl ⟨rfl, rfl, stops_of_forall_ne_cons noSlash⟩
    · rintro (⟨rfl, rfl, -⟩ | ⟨rfl, -⟩)
      · rfl
      · exact absurd rfl (noSlash _)

/-- No equals sign stands behind spaces at the front of the text. -/
def Unassigned (text : List Char) : Prop :=
  ∀ spaces after, IsRun isSpace spaces → text ≠ spaces ++ '=' :: after

/-- The spaces around the equals sign and the literal behind it, in front of
the rest. -/
def Assigns (text before after literal rest : List Char) : Prop :=
  text = before ++ '=' :: (after ++ (literal ++ rest)) ∧ IsRun isSpace before ∧
    IsRun isSpace after ∧ IsRun inLiteral literal ∧ Stops inLiteral rest

theorem stops_isSpace_of_isRun_inLiteral {literal : List Char}
    (isLiteral : IsRun inLiteral literal) : Stops isSpace (literal ++ rest) := by
  obtain ⟨nonempty, inside⟩ := isLiteral
  obtain ⟨head, others, rfl⟩ := List.exists_cons_of_ne_nil nonempty
  refine stops_cons.mpr (beq_eq_false_iff_ne.mpr ?_)
  rintro rfl
  exact absurd (inside ' ' List.mem_cons_self) (by decide)

theorem takeInitializer?_eq_some_iff {literal : List Char} :
    takeInitializer? text = some (literal, rest) ↔
      (literal = [] ∧ text = rest ∧ Unassigned text) ∨
        ∃ before after, Assigns text before after literal rest := by
  -- The equals sign ends the spaces, so an assignment is found wherever it stands.
  have skipped_of_run {before after : List Char} (isRun : IsRun isSpace before) :
      skipSpaces? (before ++ '=' :: after) = some ('=' :: after) :=
    skipSpaces?_eq_some_iff.mpr ⟨before, rfl, isRun, by simp [isSpace]⟩
  unfold takeInitializer?
  split
  next behind skipped =>
    obtain ⟨before, rfl, spacesBefore, -⟩ := skipSpaces?_eq_some_iff.mp skipped
    constructor
    · intro taken
      obtain ⟨between, skippedAfter, takenLiteral⟩ := Option.bind_eq_some_iff.mp taken
      obtain ⟨after, rfl, spacesAfter, -⟩ := skipSpaces?_eq_some_iff.mp skippedAfter
      obtain ⟨rfl, isLiteral, stops⟩ := takeRun?_eq_some_iff.mp takenLiteral
      exact .inr ⟨before, after, rfl, spacesBefore, spacesAfter, isLiteral, stops⟩
    · rintro (⟨-, -, unassigned⟩ |
        ⟨before, after, text_eq, spacesBefore, spacesAfter, isLiteral, stops⟩)
      · exact absurd rfl (unassigned before behind spacesBefore)
      · rw [text_eq, skipped_of_run spacesBefore] at skipped
        obtain rfl := List.tail_eq_of_cons_eq (Option.some.inj skipped)
        refine Option.bind_eq_some_iff.mpr ⟨literal ++ rest, ?_, ?_⟩
        · exact skipSpaces?_eq_some_iff.mpr
            ⟨after, rfl, spacesAfter, stops_isSpace_of_isRun_inLiteral isLiteral⟩
        · exact takeRun?_eq_some_iff.mpr ⟨rfl, isLiteral, stops⟩
  next notAssigned =>
    constructor
    · intro taken
      obtain ⟨rfl, rfl⟩ : [] = literal ∧ text = rest := by simpa using taken
      refine .inl ⟨rfl, rfl, ?_⟩
      rintro spaces after isRun rfl
      exact notAssigned after (skipped_of_run isRun)
    · rintro (⟨rfl, rfl, -⟩ | ⟨before, after, rfl, spacesBefore, -⟩)
      · rfl
      · exact absurd (skipped_of_run spacesBefore) (notAssigned _)

theorem takeComment?_eq_some_iff {comment : List Char} :
    takeComment? text = some comment ↔
      (comment = [] ∧ text = []) ∨
        ∃ spaces body, text = spaces ++ '/' :: '/' :: body ∧ IsRun isSpace spaces ∧
          body ≠ [] ∧ '\n' ∉ body ∧ comment = ' ' :: '/' :: '/' :: body := by
  have skipped_of_run {spaces body : List Char} (isRun : IsRun isSpace spaces) :
      skipSpaces? (spaces ++ '/' :: '/' :: body) = some ('/' :: '/' :: body) :=
    skipSpaces?_eq_some_iff.mpr ⟨spaces, rfl, isRun, by simp [isSpace]⟩
  unfold takeComment?
  split
  next => simp [eq_comm]
  next notEmpty =>
    split
    next behind skipped =>
      have onlyBody {spaces body : List Char} (isRun : IsRun isSpace spaces)
          (text_eq : text = spaces ++ '/' :: '/' :: body) : body = behind := by
        rw [text_eq, skipped_of_run isRun] at skipped
        simpa using skipped
      obtain ⟨spaces, text_eq, isRun, -⟩ := skipSpaces?_eq_some_iff.mp skipped
      by_cases bad : behind = [] ∨ '\n' ∈ behind
      · have rejected : (behind.isEmpty || behind.contains '\n') = true := by simpa using bad
        rw [if_pos rejected]
        refine iff_of_false (by simp) ?_
        rintro (⟨-, rfl⟩ | ⟨spaces, body, text_eq, isRun, nonempty, onLine, -⟩)
        · exact notEmpty rfl
        · obtain rfl := onlyBody isRun text_eq
          exact bad.elim nonempty onLine
      · have notRejected : ¬(behind.isEmpty || behind.contains '\n') = true := by simpa using bad
        rw [if_neg notRejected]
        obtain ⟨nonempty, onLine⟩ := not_or.mp bad
        constructor
        · intro taken
          have comment_eq := (Option.some.inj taken).symm
          exact .inr ⟨spaces, behind, text_eq, isRun, nonempty, onLine, comment_eq⟩
        · rintro (⟨-, rfl⟩ | ⟨spaces, body, text_eq, isRun, -, -, rfl⟩)
          · exact absurd rfl notEmpty
          · rw [onlyBody isRun text_eq]
    next notComment =>
      refine iff_of_false (by simp) ?_
      rintro (⟨-, rfl⟩ | ⟨spaces, body, rfl, isRun, -⟩)
      · exact notEmpty rfl
      · exact notComment body (skipped_of_run isRun)

end Parts

end Definition

end ColumnCode

import ColumnCode.Proofs.Readers
import Mathlib.Algebra.GroupWithZero.Basic
import Mathlib.Algebra.Ring.Int.Defs

/-!
# Integer expressions

Generated code takes the dimensions of a column into its expressions as they
are spelled.  This file says how a compiler reads such an expression: it is cut
into operands and operators, products bind tighter than sums, and both go on
from the left.  No text has two readings.
-/

namespace ColumnCode

open Definition (IsRun Stops stops_nil stops_cons run_injective)

/-- How a product counts in a sum. -/
inductive Sign where
  | plus
  | minus
  deriving DecidableEq, Repr

inductive Operator where
  | sign (sign : Sign)
  | times
  deriving DecidableEq, Repr

def Operator.character : Operator → Char
  | sign .plus => '+'
  | sign .minus => '-'
  | times => '*'

/-- What stands between operators: a decimal constant, a name, or the size of a
type. -/
inductive Operand where
  | constant (value : Nat)
  | name (spelling : String)
  | sizeOf (type : String)
  deriving DecidableEq, Repr

/-- A piece of an expression that has a meaning of its own. -/
inductive Lexeme where
  | operator (operator : Operator)
  | operand (operand : Operand)
  deriving DecidableEq, Repr

def Sign.apply : Sign → Int → Int
  | plus, value => value
  | minus, value => -value

def Operand.value (sizes names : String → Int) : Operand → Int
  | constant value => value
  | name spelling => names spelling
  | sizeOf type => sizes type

/-- A product of operands, taken from the left. -/
inductive Term where
  | single (operand : Operand)
  | times (term : Term) (operand : Operand)
  deriving DecidableEq, Repr

/-- A sum of products with their signs, taken from the left. -/
inductive Expression where
  | single (term : Term)
  | signed (expression : Expression) (sign : Sign) (term : Term)
  deriving DecidableEq, Repr

namespace Lexeme

/-- The characters of names and constants.  Names can hold characters outside
ASCII. -/
def inWord (character : Char) : Bool :=
  character.isAlphanum || character == '_' ||
    (127 < character.toNat && !Text.isBlank character)

/-- The characters that stand between lexemes without a meaning. -/
def isGap (character : Char) : Bool :=
  [' ', '\t', '\n', '\x0b', '\x0c', '\r'].contains character

/-- The words that are operands.  A constant has no leading zero, which would
make it octal. -/
inductive IsWord : List Char → Operand → Prop
  | constant (value : Nat) : IsWord value.repr.toList (.constant value)
  | name {run : List Char} (isRun : IsRun inWord run) (notDigit : Stops Char.isDigit run) :
      IsWord run (.name (String.ofList run))

/-- The lexemes that a text is cut into.  A word reaches as far as its
characters do. -/
inductive IsLexed : List Char → List Lexeme → Prop
  | nil : IsLexed [] []
  | gap {character : Char} {rest : List Char} {lexemes : List Lexeme}
      (between : isGap character = true) (lexed : IsLexed rest lexemes) :
      IsLexed (character :: rest) lexemes
  | operator (operator : Operator) {rest : List Char} {lexemes : List Lexeme}
      (lexed : IsLexed rest lexemes) :
      IsLexed (operator.character :: rest) (.operator operator :: lexemes)
  | word {run rest : List Char} {operand : Operand} {lexemes : List Lexeme}
      (isWord : IsWord run operand) (stops : Stops inWord rest) (lexed : IsLexed rest lexemes) :
      IsLexed (run ++ rest) (.operand operand :: lexemes)
  | sizeOf {type rest : List Char} {lexemes : List Lexeme} (enclosed : ')' ∉ type)
      (lexed : IsLexed rest lexemes) :
      IsLexed ("sizeof".toList ++ '(' :: (type ++ ')' :: rest))
        (.operand (.sizeOf (String.ofList type)) :: lexemes)

theorem inWord_of_isGap {character : Char} (between : isGap character = true) :
    inWord character = false := by
  simp only [isGap, List.contains_eq_mem, List.mem_cons, List.not_mem_nil, or_false,
    decide_eq_true_eq] at between
  rcases between with rfl | rfl | rfl | rfl | rfl | rfl <;> decide

theorem inWord_character (operator : Operator) : inWord operator.character = false := by
  rcases operator with (_ | _) | _ <;> decide

theorem isGap_character (operator : Operator) : isGap operator.character = false := by
  rcases operator with (_ | _) | _ <;> decide

theorem character_injective {first second : Operator} (same : first.character = second.character) :
    first = second := by
  rcases first with (_ | _) | _ <;> rcases second with (_ | _) | _ <;> first | rfl | cases same

theorem isDigit_of_mem_repr {value : Nat} {character : Char}
    (member : character ∈ value.repr.toList) : character.isDigit = true := by
  have inDigits : character ∈ Nat.toDigits 10 value := by simpa using member
  exact Nat.isDigit_of_mem_toDigits (by decide) (by decide) inDigits

theorem repr_injective {first second : Nat} (same : first.repr.toList = second.repr.toList) :
    first = second := by
  have values := congrArg (Nat.ofDigitChars 10 · 0) same
  simpa [Nat.ofDigitChars_ten_toDigits] using values

namespace IsWord

variable {run : List Char} {operand : Operand}

theorem isRun (isWord : IsWord run operand) : IsRun inWord run := by
  cases isWord with
  | constant value =>
      refine ⟨by simp [Nat.toDigits_ne_nil], fun character member => ?_⟩
      simp [inWord, Char.isAlphanum, isDigit_of_mem_repr member]
  | name isRun notDigit => exact isRun

theorem unique (isWord : IsWord run operand) {other : Operand} (isOther : IsWord run other) :
    operand = other := by
  have startsWithDigit (value : Nat) : ¬Stops Char.isDigit value.repr.toList := by
    intro stops
    obtain ⟨first, others, characters⟩ :=
      List.exists_cons_of_ne_nil (IsWord.constant value).isRun.1
    have member : first ∈ value.repr.toList := by
      rw [characters]
      exact List.mem_cons_self
    have isDigit := isDigit_of_mem_repr member
    rw [characters, stops_cons, isDigit] at stops
    exact Bool.false_ne_true stops.symm
  generalize text : run = characters at isOther
  cases isWord with
  | constant value =>
      cases isOther with
      | constant => rw [repr_injective text]
      | name _ notDigit => exact absurd (text ▸ notDigit) (startsWithDigit value)
  | name _ notDigit =>
      cases isOther with
      | constant value => exact absurd (text ▸ notDigit) (startsWithDigit value)
      | name => rw [text]

end IsWord

theorem isRun_of_all {run : List Char} (nonempty : run ≠ []) (all : run.all inWord = true) :
    IsRun inWord run :=
  ⟨nonempty, List.all_eq_true.mp all⟩

theorem isRun_sizeof : IsRun inWord "sizeof".toList :=
  isRun_of_all (by decide) (by decide)

theorem type_injective {first second firstRest secondRest : List Char}
    (firstEnclosed : ')' ∉ first) (secondEnclosed : ')' ∉ second)
    (same : first ++ ')' :: firstRest = second ++ ')' :: secondRest) :
    first = second ∧ firstRest = secondRest := by
  have inside {type : List Char} (enclosed : ')' ∉ type) :
      ∀ character ∈ type, (character != ')') = true := by
    intro character member
    simpa using fun closing : character = ')' => enclosed (closing ▸ member)
  have stops {rest : List Char} : Stops (· != ')') (')' :: rest) := by simp
  obtain ⟨rfl, rests⟩ :=
    run_injective (inside firstEnclosed) stops (inside secondEnclosed) stops same
  exact ⟨rfl, (List.cons.inj rests).2⟩

theorem stops_append_gap {character : Char} (between : isGap character = true)
    {text : List Char} (stops : Stops inWord text) (rest : List Char) :
    Stops inWord (text ++ character :: rest) := by
  cases text with
  | nil => exact stops_cons.mpr (inWord_of_isGap between)
  | cons head text => exact stops_cons.mpr (stops_cons.mp stops)

namespace IsLexed

variable {character : Char} {run rest text : List Char} {lexemes : List Lexeme}

/-- What begins outside the words begins with a gap or an operator. -/
theorem of_outside (outside : inWord character = false)
    (lexed : IsLexed (character :: rest) lexemes) :
    (isGap character = true ∧ IsLexed rest lexemes) ∨
      ∃ operator others, character = operator.character ∧
        lexemes = .operator operator :: others ∧ IsLexed rest others := by
  generalize whole : character :: rest = text at lexed
  cases lexed with
  | nil => cases whole
  | gap between lexed =>
      obtain ⟨rfl, rfl⟩ := List.cons.inj whole
      exact .inl ⟨between, lexed⟩
  | operator operator lexed =>
      obtain ⟨rfl, rfl⟩ := List.cons.inj whole
      exact .inr ⟨operator, _, rfl, rfl, lexed⟩
  | word isWord _ lexed =>
      obtain ⟨first, others, rfl⟩ := List.exists_cons_of_ne_nil isWord.isRun.1
      obtain ⟨rfl, rfl⟩ := List.cons.inj whole
      simp [isWord.isRun.2] at outside
  | sizeOf enclosed lexed =>
      obtain ⟨rfl, -⟩ := List.cons.inj whole
      simp +decide at outside

theorem of_gap (between : isGap character = true) (lexed : IsLexed (character :: rest) lexemes) :
    IsLexed rest lexemes := by
  rcases of_outside (inWord_of_isGap between) lexed with
    ⟨-, lexedRest⟩ | ⟨operator, others, rfl, -⟩
  · exact lexedRest
  · simp [isGap_character] at between

theorem of_operator {operator : Operator} (lexed : IsLexed (operator.character :: rest) lexemes) :
    ∃ others, lexemes = .operator operator :: others ∧ IsLexed rest others := by
  rcases of_outside (inWord_character operator) lexed with
    ⟨between, -⟩ | ⟨other, others, same, rfl, lexedRest⟩
  · simp [isGap_character] at between
  · obtain rfl := character_injective same
    exact ⟨others, rfl, lexedRest⟩

theorem not_parenthesis (lexed : IsLexed ('(' :: rest) lexemes) : False := by
  rcases of_outside (by decide) lexed with ⟨between, -⟩ | ⟨operator, others, same, -⟩
  · simp +decide at between
  · rcases operator with (_ | _) | _ <;> simp +decide at same

/-- Words are operands of their own, except before a parenthesis. -/
theorem of_run (isRun : IsRun inWord run) (stops : Stops inWord rest)
    (lexed : IsLexed (run ++ rest) lexemes) :
    (∃ operand others, lexemes = .operand operand :: others ∧ IsWord run operand ∧
        IsLexed rest others) ∨
      ∃ type after others, run = "sizeof".toList ∧ rest = '(' :: (type ++ ')' :: after) ∧
        ')' ∉ type ∧ lexemes = .operand (.sizeOf (String.ofList type)) :: others ∧
        IsLexed after others := by
  obtain ⟨first, tail, characters⟩ := List.exists_cons_of_ne_nil isRun.1
  have inside : inWord first = true := isRun.2 first (by simp [characters])
  generalize whole : run ++ rest = text at lexed
  cases lexed with
  | nil => simp [characters] at whole
  | gap between lexed =>
      rw [characters] at whole
      obtain ⟨rfl, -⟩ := List.cons.inj whole
      simp [inWord_of_isGap between] at inside
  | operator operator lexed =>
      rw [characters] at whole
      obtain ⟨rfl, -⟩ := List.cons.inj whole
      simp [inWord_character] at inside
  | word isWord otherStops lexed =>
      obtain ⟨rfl, rfl⟩ := run_injective isRun.2 stops isWord.isRun.2 otherStops whole
      exact .inl ⟨_, _, rfl, isWord, lexed⟩
  | sizeOf enclosed lexed =>
      obtain ⟨rfl, rfl⟩ := run_injective isRun.2 stops isRun_sizeof.2
        (stops_cons.mpr (by decide)) whole
      exact .inr ⟨_, _, _, rfl, rfl, enclosed, rfl, lexed⟩

/-- A text is cut in one way. -/
theorem unique (lexed : IsLexed text lexemes) {others : List Lexeme}
    (lexedOther : IsLexed text others) : lexemes = others := by
  -- The induction is on the first cut, and how the text begins decides the first
  -- step of the other.
  induction lexed generalizing others with
  | nil =>
      generalize whole : [] = text at lexedOther
      cases lexedOther with
      | nil => rfl
      | word isWord _ _ => exact absurd (List.append_eq_nil_iff.mp whole.symm).1 isWord.isRun.1
      | _ => simp at whole
  | gap between _ ih => exact ih (of_gap between lexedOther)
  | operator operator _ ih =>
      obtain ⟨tail, rfl, lexed⟩ := of_operator lexedOther
      rw [ih lexed]
  | word isWord stops first ih =>
      obtain ⟨operand, tail, rfl, isOther, lexed⟩ | ⟨type, after, tail, -, rfl, -⟩ :=
        of_run isWord.isRun stops lexedOther
      · rw [ih lexed, isWord.unique isOther]
      · exact first.not_parenthesis.elim
  | sizeOf enclosed _ ih =>
      obtain ⟨operand, tail, -, -, lexed⟩ |
          ⟨type, after, tail, -, same, otherEnclosed, rfl, lexed⟩ :=
        of_run isRun_sizeof (stops_cons.mpr (by decide)) lexedOther
      · exact lexed.not_parenthesis.elim
      · obtain ⟨rfl, rfl⟩ := type_injective enclosed otherEnclosed (List.cons.inj same).2
        rw [ih lexed]

/-- Texts with a gap between them are cut apart there. -/
theorem append (lexed : IsLexed text lexemes) (between : isGap character = true)
    {others : List Lexeme} (lexedRest : IsLexed rest others) :
    IsLexed (text ++ character :: rest) (lexemes ++ others) := by
  induction lexed with
  | nil => exact .gap between lexedRest
  | gap inner _ ih => exact .gap inner ih
  | operator operator _ ih => exact .operator operator ih
  | word isWord stops _ ih =>
      rw [List.append_assoc]
      exact .word isWord (stops_append_gap between stops rest) ih
  | sizeOf enclosed _ ih =>
      rw [List.append_assoc, List.cons_append, List.append_assoc, List.cons_append]
      exact .sizeOf enclosed ih

theorem append_operator (lexed : IsLexed text lexemes) (operator : Operator)
    {others : List Lexeme} (lexedRest : IsLexed rest others) :
    IsLexed (text ++ ' ' :: operator.character :: ' ' :: rest)
      (lexemes ++ .operator operator :: others) :=
  lexed.append (by decide) (.operator operator (.gap (by decide) lexedRest))

end IsLexed

end Lexeme

namespace Term

def lexemes : Term → List Lexeme
  | single operand => [.operand operand]
  | times term operand => term.lexemes ++ [.operator .times, .operand operand]

/-- The product of two products, as one product taken from the left. -/
def append (first : Term) : Term → Term
  | single operand => first.times operand
  | times second operand => (first.append second).times operand

def value (sizes names : String → Int) : Term → Int
  | single operand => operand.value sizes names
  | times term operand => term.value sizes names * operand.value sizes names

theorem lexemes_append (first second : Term) :
    (first.append second).lexemes =
      first.lexemes ++ .operator .times :: second.lexemes := by
  induction second with
  | single operand => rfl
  | times second operand ih => simp [append, lexemes, ih]

theorem value_append (sizes names : String → Int) (first second : Term) :
    (first.append second).value sizes names =
      first.value sizes names * second.value sizes names := by
  induction second with
  | single operand => rfl
  | times second operand ih => simp [append, value, ih, mul_assoc]

theorem sign_not_mem_lexemes (sign : Sign) (term : Term) :
    Lexeme.operator (.sign sign) ∉ term.lexemes := by
  induction term with
  | single operand => simp [lexemes]
  | times term operand ih => simp [lexemes, ih]

theorem lexemes_ne_nil (term : Term) : term.lexemes ≠ [] := by
  cases term <;> simp [lexemes]

theorem lexemes_injective : Function.Injective lexemes := by
  intro first second same
  induction first generalizing second with
  | single operand =>
      cases second with
      | single other => simpa [lexemes] using same
      | times second other =>
          obtain ⟨head, tail, characters⟩ := List.exists_cons_of_ne_nil second.lexemes_ne_nil
          simp [lexemes, characters] at same
  | times first operand ih =>
      cases second with
      | single other =>
          obtain ⟨head, tail, characters⟩ := List.exists_cons_of_ne_nil first.lexemes_ne_nil
          simp [lexemes, characters] at same
      | times second other =>
          obtain ⟨front, last⟩ := List.append_inj' same rfl
          rw [ih front]
          simpa using last

end Term

namespace Expression

def lexemes : Expression → List Lexeme
  | single term => term.lexemes
  | signed expression sign term =>
      expression.lexemes ++ .operator (.sign sign) :: term.lexemes

def value (sizes names : String → Int) : Expression → Int
  | single term => term.value sizes names
  | signed expression sign term =>
      expression.value sizes names + sign.apply (term.value sizes names)

/-- There is no sign behind the last one. -/
theorem eq_of_signed_suffix {front : List Lexeme} {firstSign secondSign : Sign}
    {firstTerm secondTerm : Term}
    (same : .operator (.sign firstSign) :: firstTerm.lexemes =
      front ++ .operator (.sign secondSign) :: secondTerm.lexemes) :
    front = [] ∧ firstSign = secondSign ∧ firstTerm = secondTerm := by
  cases front with
  | nil =>
      obtain ⟨signs, terms⟩ := List.cons.inj same
      exact ⟨rfl, by simpa using signs, Term.lexemes_injective terms⟩
  | cons head front =>
      have inTerm : Lexeme.operator (.sign secondSign) ∈ firstTerm.lexemes := by
        rw [(List.cons.inj same).2]
        simp
      exact absurd inTerm (Term.sign_not_mem_lexemes secondSign firstTerm)

theorem lexemes_injective : Function.Injective lexemes := by
  intro first second same
  have notTerm (term : Term) (expression : Expression) (sign : Sign) (last : Term) :
      term.lexemes ≠ expression.lexemes ++ .operator (.sign sign) :: last.lexemes := by
    intro same
    exact Term.sign_not_mem_lexemes sign term (by simp [same])
  induction first generalizing second with
  | single term =>
      cases second with
      | single other => rw [Term.lexemes_injective same]
      | signed second otherSign other => exact absurd same (notTerm term second otherSign other)
  | signed first sign term ih =>
      cases second with
      | single other => exact absurd same.symm (notTerm other first sign term)
      | signed second otherSign other =>
          -- Behind a last sign stands one product, which holds no sign, so
          -- the last signs of both sums stand at one place.
          obtain ⟨front, fronts, ends⟩ | ⟨front, fronts, ends⟩ := List.append_eq_append_iff.mp same
          · obtain ⟨rfl, rfl, rfl⟩ := eq_of_signed_suffix ends
            rw [List.append_nil] at fronts
            rw [ih fronts.symm]
          · obtain ⟨rfl, rfl, rfl⟩ := eq_of_signed_suffix ends
            rw [List.append_nil] at fronts
            rw [ih fronts]

/-- The first of the products in a sum. -/
def first : Expression → Term
  | single term => term
  | signed expression _ _ => expression.first

/-- What the products behind the first one add to its value. -/
def others (sizes names : String → Int) : Expression → Int
  | single _ => 0
  | signed expression sign term =>
      expression.others sizes names + sign.apply (term.value sizes names)

theorem value_eq_first_add_others (sizes names : String → Int) (expression : Expression) :
    expression.value sizes names =
      expression.first.value sizes names + expression.others sizes names := by
  induction expression with
  | single term => simp [value, first, others]
  | signed expression sign term ih => rw [value, first, others, ih, add_assoc]

def timesTerm : Expression → Term → Expression
  | single term, factor => single (term.append factor)
  | signed expression sign term, factor => signed expression sign (term.append factor)

/-- What is read where a star joins the texts of two expressions: it multiplies
the last product before it by the first product behind it. -/
def splice (expression : Expression) : Expression → Expression
  | single term => expression.timesTerm term
  | signed front sign term => signed (expression.splice front) sign term

theorem lexemes_timesTerm (expression : Expression) (factor : Term) :
    (expression.timesTerm factor).lexemes =
      expression.lexemes ++ .operator .times :: factor.lexemes := by
  cases expression with
  | single term => exact term.lexemes_append factor
  | signed expression sign term => simp [timesTerm, lexemes, Term.lexemes_append]

theorem lexemes_splice (first second : Expression) :
    (first.splice second).lexemes =
      first.lexemes ++ .operator .times :: second.lexemes := by
  induction second with
  | single term => exact first.lexemes_timesTerm term
  | signed front sign term ih => simp [splice, lexemes, ih]

/-- A factor before a sum multiplies only the first of its products. -/
theorem value_splice_single (sizes names : String → Int) (factor : Term)
    (expression : Expression) :
    ((single factor).splice expression).value sizes names =
      factor.value sizes names * expression.first.value sizes names +
        expression.others sizes names := by
  induction expression with
  | single term => simp [splice, timesTerm, value, first, others, Term.value_append]
  | signed expression sign term ih => simp [splice, value, first, others, ih, add_assoc]

/-- A factor before a sum multiplies all of it only if it is one or there is
nothing to leave out. -/
theorem value_splice_single_eq_mul_iff (sizes names : String → Int) (factor : Term)
    (expression : Expression) :
    ((single factor).splice expression).value sizes names =
        factor.value sizes names * expression.value sizes names ↔
      factor.value sizes names = 1 ∨ expression.others sizes names = 0 := by
  rw [value_splice_single, value_eq_first_add_others, mul_add, add_right_inj, eq_comm]
  exact mul_left_eq_self₀

/-- A compiler reads the text as the expression. -/
def Reads (text : String) (expression : Expression) : Prop :=
  Lexeme.IsLexed text.toList expression.lexemes

theorem Reads.unique {text : String} {first second : Expression} (readsFirst : Reads text first)
    (readsSecond : Reads text second) : first = second :=
  lexemes_injective (Lexeme.IsLexed.unique readsFirst readsSecond)

theorem Reads.splice {firstText secondText : String} {first second : Expression}
    (readsFirst : Reads firstText first) (readsSecond : Reads secondText second) :
    Reads (firstText ++ " * " ++ secondText) (first.splice second) := by
  have joined := readsFirst.append_operator .times readsSecond
  rw [Reads, lexemes_splice]
  simpa [Operator.character] using joined

theorem Reads.signed {firstText secondText : String} {expression : Expression} {term : Term}
    (readsFirst : Reads firstText expression) (sign : Sign)
    (readsSecond : Reads secondText (single term)) :
    Reads (firstText ++ " " ++ String.singleton (Operator.sign sign).character ++ " " ++ secondText)
      (expression.signed sign term) := by
  have joined := readsFirst.append_operator (.sign sign) readsSecond
  simpa [Reads, lexemes] using joined

theorem reads_constant (value : Nat) : Reads value.repr (single (.single (.constant value))) := by
  have lexed := Lexeme.IsLexed.word (.constant value) stops_nil .nil
  simpa [Reads, lexemes, Term.lexemes] using lexed

theorem reads_name {spelling : String} (isRun : IsRun Lexeme.inWord spelling.toList)
    (notDigit : Stops Char.isDigit spelling.toList) :
    Reads spelling (single (.single (.name spelling))) := by
  have lexed := Lexeme.IsLexed.word (.name isRun notDigit) stops_nil .nil
  rw [String.ofList_toList] at lexed
  simpa [Reads, lexemes, Term.lexemes] using lexed

theorem reads_sizeOf {type : String} (enclosed : ')' ∉ type.toList) :
    Reads ("sizeof(" ++ type ++ ")") (single (.single (.sizeOf type))) := by
  have lexed := Lexeme.IsLexed.sizeOf enclosed .nil
  rw [String.ofList_toList] at lexed
  simpa [Reads, lexemes, Term.lexemes] using lexed

end Expression

end ColumnCode

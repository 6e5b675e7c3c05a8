import ColumnCode.Proofs.BackingChoice
import ColumnCode.Proofs.Expression
import ColumnCode.Proofs.LiteralDimension
import Mathlib.Data.List.Infix

/-!
# The format that an array is booked with

An array column is booked with a format and its arguments.  The format has a
group for each dimension, with the value of a literal or with a placeholder for
a symbol, and the symbols follow as arguments.  Put in the places of the
placeholders they make up the shape again, with every literal spelled as its
value is written.
-/

namespace ColumnCode

namespace Text

/-- How often one sequence of characters stands in another. -/
def occurrences (pattern text : List Char) : Nat :=
  text.tails.countP pattern.isPrefixOf

/-- Put texts in the places of the placeholders of a format, in order.  There is
a result only if there are as many texts as placeholders. -/
def fill? : List Char → List String → Option (List Char)
  | '%' :: 'd' :: _, [] => none
  | '%' :: 'd' :: rest, argument :: others => (fill? rest others).map (argument.toList ++ ·)
  | character :: rest, arguments => (fill? rest arguments).map (character :: ·)
  | [], [] => some []
  | [], _ :: _ => none

theorem occurrences_placeholder (rest : List Char) :
    occurrences "%d".toList ('%' :: 'd' :: rest) = occurrences "%d".toList rest + 1 := by
  simp [occurrences, List.isPrefixOf]

theorem occurrences_cons {character : Char} {rest : List Char}
    (other : ∀ others, character = '%' → rest = 'd' :: others → False) :
    occurrences "%d".toList (character :: rest) = occurrences "%d".toList rest := by
  have noPrefix : ¬"%d".toList.isPrefixOf (character :: rest) = true := by
    rw [List.isPrefixOf_iff_prefix]
    rintro ⟨others, same⟩
    obtain ⟨rfl, rfl⟩ := List.cons.inj same
    exact other others rfl rfl
  rw [occurrences, List.tails_cons, List.countP_cons_of_neg noPrefix, occurrences]

/-- A format that can be filled has a placeholder for each text. -/
theorem occurrences_eq_length_of_fill? {format : List Char} {arguments : List String}
    {text : List Char} (filled : fill? format arguments = some text) :
    occurrences "%d".toList format = arguments.length := by
  induction format, arguments using fill?.induct generalizing text with
  | case1 rest => cases filled
  | case2 rest argument arguments ih =>
      obtain ⟨text, inner, -⟩ := Option.map_eq_some_iff.mp filled
      rw [occurrences_placeholder, ih inner, List.length_cons]
  | case3 character rest arguments unanswered answered ih =>
      rw [fill?.eq_3 _ _ _ unanswered answered] at filled
      obtain ⟨text, inner, -⟩ := Option.map_eq_some_iff.mp filled
      -- Where no placeholder begins, it does not matter whether arguments are left.
      have other : ∀ others, character = '%' → rest = 'd' :: others → False := by
        cases arguments with
        | nil => exact fun others => unanswered others rfl
        | cons argument arguments => exact fun others => answered others argument arguments rfl
      rw [occurrences_cons other, ih inner]
  | case4 => rfl
  | case5 argument arguments => cases filled

theorem fill?_append {piece : List Char} (plain : '%' ∉ piece) (rest : List Char)
    (arguments : List String) :
    fill? (piece ++ rest) arguments = (fill? rest arguments).map (piece ++ ·) := by
  induction piece with
  | nil => simp
  | cons character piece ih =>
      obtain ⟨different, others⟩ := List.ne_and_not_mem_of_not_mem_cons plain
      have step : fill? (character :: (piece ++ rest)) arguments =
          (fill? (piece ++ rest) arguments).map (character :: ·) :=
        fill?.eq_3 _ _ _ (fun _ _ same => absurd same.symm different)
          (fun _ _ _ _ same => absurd same.symm different)
      rw [List.cons_append, step, ih others, Option.map_map]
      rfl

theorem intercalate_cons (separator first : String) (others : List String) :
    separator.intercalate (first :: others) =
      first ++ String.join (others.map (separator ++ ·)) := by
  induction others generalizing first with
  | nil => simp
  | cons second others ih =>
      rw [String.intercalate_cons_cons, ih, List.map_cons, String.join_cons, String.append_assoc,
        String.append_assoc]

end Text

/-- The dimension with a literal spelled as its value is written. -/
def Dimension.respelled : Dimension → Dimension
  | literal _ value => literal value.toNat.repr value
  | symbol spelling => symbol spelling

/-- The shape with all literals spelled as their values are written. -/
def Shape.respelled (shape : Shape) : Shape :=
  ⟨shape.dimensions.map Dimension.respelled⟩

namespace Branch

variable {branch : Branch}

theorem WellFormed.toList_repr_value (wellFormed : branch.WellFormed) {spelling : String}
    {value : UInt64} (member : .literal spelling value ∈ branch.shape.dimensions) :
    value.toNat.repr.toList = Dimension.plainDigits spelling.toList := by
  obtain ⟨token, -, isLiteral⟩ := wellFormed.dimensions _ member
  exact Dimension.toList_repr_value isLiteral.symm

/-- Nothing is spelled anew if no literal has a zero to leave out. -/
theorem WellFormed.respelled_eq (wellFormed : branch.WellFormed)
    (plain : ∀ spelling value, .literal spelling value ∈ branch.shape.dimensions →
      ¬Dimension.HasSpareZero spelling) : branch.shape.respelled = branch.shape := by
  have kept : ∀ dimension ∈ branch.shape.dimensions, dimension.respelled = dimension := by
    intro dimension member
    cases dimension with
    | literal spelling value =>
        obtain ⟨token, -, isLiteral⟩ := wellFormed.dimensions _ member
        rw [Dimension.respelled,
          Dimension.repr_value_of_not_hasSpareZero isLiteral.symm (plain spelling value member)]
    | symbol spelling => rfl
  exact congrArg Shape.mk ((List.map_congr_left kept).trans (List.map_id _))

/-- A branch has the dimensions that its definition writes. -/
theorem bracketed_of_ofDefinition {definition : Definition}
    (meant : ofDefinition definition = .ok branch) :
    branch.shape.bracketed =
      String.join (definition.dimensions.map fun token => "[" ++ token ++ "]") := by
  obtain ⟨scalar, -, rfl⟩ := ofDefinition_eq_ok_iff.mp meant
  rw [Shape.bracketed, Shape.spellings_ofTokens]

end Branch

namespace Target

open Text (fill? occurrences)

/-- What a shape is formatted by: a group in brackets for each dimension. -/
def pattern (shape : Shape) : String :=
  String.join (shape.dimensions.map formatDimension)

/-- What the placeholders of the pattern stand for: the symbols among the
dimensions. -/
def patternArguments (shape : Shape) : List String :=
  shape.dimensions.filterMap formatArgument?

theorem formattedShape_eq (target : Target) (shape : Shape) :
    target.formattedShape shape = target.vocabulary.formatter ++ "(\"" ++ pattern shape ++ "\"" ++
      String.join ((patternArguments shape).map (", " ++ ·)) ++ ")" := by
  rw [formattedShape, Text.intercalate_cons]
  simp only [pattern, patternArguments, String.append_assoc]
  rfl

/-- A dimension is filled in as it is respelled. -/
theorem fill?_formatDimension (dimension : Dimension) (rest : List Char)
    (arguments : List String) :
    fill? ((formatDimension dimension).toList ++ rest)
        ((formatArgument? dimension).toList ++ arguments) =
      (fill? rest arguments).map (("[" ++ dimension.respelled.spelling ++ "]").toList ++ ·) := by
  cases dimension with
  | literal spelling value =>
      have plain : '%' ∉ ("[" ++ value.toNat.repr ++ "]").toList := by
        intro member
        have inDigits : '%' ∈ value.toNat.repr.toList := by simpa using member
        exact absurd (Lexeme.isDigit_of_mem_repr inDigits) (by decide)
      exact Text.fill?_append plain rest arguments
  | symbol spelling =>
      have opening : '%' ∉ ['['] := by decide
      have closing : '%' ∉ [']'] := by decide
      have format : (formatDimension (.symbol spelling)).toList ++ rest =
          ['['] ++ '%' :: 'd' :: ([']'] ++ rest) := by simp [formatDimension]
      have argument : (formatArgument? (.symbol spelling)).toList ++ arguments =
          spelling :: arguments := rfl
      rw [format, argument, Text.fill?_append opening, fill?, Text.fill?_append closing,
        Option.map_map, Option.map_map]
      refine Option.map_congr fun others _ => ?_
      simp [Dimension.respelled, Dimension.spelling]

/-- The pattern of a shape and its arguments make up the shape again. -/
theorem fill?_pattern (shape : Shape) :
    fill? (pattern shape).toList (patternArguments shape) =
      some shape.respelled.bracketed.toList := by
  rcases shape with ⟨dimensions⟩
  simp only [pattern, patternArguments, Shape.respelled, Shape.bracketed, Shape.spellings]
  induction dimensions with
  | nil => rfl
  | cons dimension dimensions ih =>
      have arguments : (dimension :: dimensions).filterMap formatArgument? =
          (formatArgument? dimension).toList ++ dimensions.filterMap formatArgument? := by
        cases dimension <;> rfl
      rw [List.map_cons, String.join_cons, String.toList_append, arguments,
        fill?_formatDimension, ih]
      simp

/-- Everything but a storage of vectors books an array by its format. -/
theorem code_book_array {target : Target} (arrays : target.usesVectors = false) {branch : Branch}
    (persistent : branch.modifiers.transient = false) (array : branch.isArray = true) :
    target.code .book branch =
      [target.runtimeCall "book" branch
        [(if target.role = .storage then target.vocabulary.entrySize ++ " + " else "") ++
            target.formattedShape branch.shape,
          "'" ++ String.singleton branch.scalar.letter ++ "'", target.address branch,
          target.vocabulary.selection]] := by
  have treated : target.treats .book branch = true := by
    simp [treats, Operation.supportedBy, persistent]
  simp only [code, treated, if_true, body, booking, arrays, bookedShape, array, beq_iff_eq]
  rfl

/-- A column is booked with a format that has one placeholder for each argument
and makes up its shape when these are put in.  The shape is that of its
definition if no literal there has a zero to leave out. -/
theorem booking_format_filled (target : Target) (arrays : target.usesVectors = false)
    {line : String} {branch : Branch} (accepted : (Branch.read line).value = .ok branch)
    (persistent : branch.modifiers.transient = false) (array : branch.isArray = true) :
    target.code .book branch =
        [target.runtimeCall "book" branch
          [(if target.role = .storage then target.vocabulary.entrySize ++ " + " else "") ++
              target.vocabulary.formatter ++ "(\"" ++ pattern branch.shape ++ "\"" ++
              String.join ((patternArguments branch.shape).map (", " ++ ·)) ++ ")",
            "'" ++ String.singleton branch.scalar.letter ++ "'", target.address branch,
            target.vocabulary.selection]] ∧
      occurrences "%d".toList (pattern branch.shape).toList =
        (patternArguments branch.shape).length ∧
      fill? (pattern branch.shape).toList (patternArguments branch.shape) =
        some branch.shape.respelled.bracketed.toList ∧
      (∀ spelling value, .literal spelling value ∈ branch.shape.dimensions →
        value.toNat.repr.toList = Dimension.plainDigits spelling.toList) ∧
      ((∀ spelling value, .literal spelling value ∈ branch.shape.dimensions →
          ¬Dimension.HasSpareZero spelling) →
        ∃ definition, Definition.ofLine? line = some definition ∧
          fill? (pattern branch.shape).toList (patternArguments branch.shape) =
            some (String.join
              (definition.dimensions.map fun token => "[" ++ token ++ "]")).toList) := by
  have wellFormed := Branch.wellFormed_of_read accepted
  have filled := fill?_pattern branch.shape
  refine ⟨?_, Text.occurrences_eq_length_of_fill? filled, filled,
    fun spelling value member => wellFormed.toList_repr_value member, fun plain => ?_⟩
  · rw [code_book_array arrays persistent array, formattedShape_eq]
    simp only [String.append_assoc]
  · obtain ⟨definition, ofLine, meant⟩ := Branch.value_read_eq_ok_iff.mp accepted
    refine ⟨definition, ofLine, ?_⟩
    rw [filled, wellFormed.respelled_eq plain, Branch.bracketed_of_ofDefinition meant]

/-- A storage books a column of three dimensions: a symbol, a literal with a
spare zero, and digits that are too large for a word and so stand for a
symbol. -/
theorem booking_format_filled_storage :
    ({ role := .storage } : Target).usesVectors = false ∧
      (Branch.read "w[nA][02][18446744073709551616]/D").value =
        .ok ⟨"w", .float64, ⟨[.symbol "nA", .literal "02" 2, .symbol "18446744073709551616"]⟩,
          ⟨false, false⟩, "", ""⟩ ∧
      ({ role := .storage } : Target).code .book
          ⟨"w", .float64, ⟨[.symbol "nA", .literal "02" 2, .symbol "18446744073709551616"]⟩,
            ⟨false, false⟩, "", ""⟩ =
        ["panda::utils::book(_tree, BranchName(_name, \"w\"), size + " ++
          "TString::Format(\"[%d][2][%d]\", nA, 18446744073709551616), 'D', w, _branches);"] ∧
      fill? "[%d][2][%d]".toList ["nA", "18446744073709551616"] =
        some "[nA][2][18446744073709551616]".toList := by
  have accepted : (Branch.read "w[nA][02][18446744073709551616]/D").value =
      .ok ⟨"w", .float64, ⟨[.symbol "nA", .literal "02" 2, .symbol "18446744073709551616"]⟩,
        ⟨false, false⟩, "", ""⟩ := by
    decide +kernel
  obtain ⟨code, -, filled, -⟩ :=
    booking_format_filled { role := .storage } (by decide) accepted rfl rfl
  exact ⟨by decide, accepted, code.trans (by decide +kernel), filled⟩

end Target

end ColumnCode

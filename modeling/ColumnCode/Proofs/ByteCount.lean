import ColumnCode.Proofs.Expression
import ColumnCode.Target.Code
import Mathlib.Algebra.BigOperators.Group.List.Basic

/-!
# The number of bytes in an array assignment

An array is copied by its bytes, and their number is an expression: the size of
the scalar type and the dimensions, joined by stars.  A dimension that is a
product keeps its value there.  A dimension that is a sum does not, since it
stands without parentheses: the star before it takes only its first product.
-/

namespace ColumnCode

open Expression (Reads)

/-- Texts joined by stars, one after the other. -/
theorem foldl_star (first second : String) (others : List String) :
    (second :: others).foldl (fun text next => text ++ " * " ++ next) first =
      first ++ " * " ++ " * ".intercalate (second :: others) := by
  induction others generalizing first second with
  | nil => simp
  | cons third others ih =>
      rw [List.foldl_cons, ih, String.intercalate_cons_cons]
      simp only [String.append_assoc]

theorem Expression.Reads.foldl_star {text : String} {expression : Expression}
    (reads : Reads text expression) {spellings : List String} {dimensions : List Expression}
    (readAll : List.Forall₂ Reads spellings dimensions) :
    Reads (spellings.foldl (fun text next => text ++ " * " ++ next) text)
      (dimensions.foldl Expression.splice expression) := by
  induction readAll generalizing text expression with
  | nil => exact reads
  | cons read _ ih => exact ih (reads.splice read)

/-- Products joined by stars are one product. -/
theorem Expression.foldl_splice_single (sizes names : String → Int) (term : Term)
    {dimensions : List Expression}
    (products : ∀ dimension ∈ dimensions, ∃ factor, dimension = single factor) :
    (dimensions.foldl splice (single term)).value sizes names =
      term.value sizes names * (dimensions.map (value sizes names)).prod := by
  induction dimensions generalizing term with
  | nil => simp [value]
  | cons dimension dimensions ih =>
      obtain ⟨⟨factor, rfl⟩, others⟩ := List.forall_mem_cons.mp products
      rw [List.foldl_cons, splice, timesTerm, ih _ others, Term.value_append, List.map_cons,
        List.prod_cons, value, mul_assoc]

namespace Branch

/-- The number of bytes that an array assignment copies, as it is written. -/
def byteCount (branch : Branch) : String :=
  "sizeof(" ++ branch.scalar.typeName ++ ") * " ++ branch.shape.product

/-- What is read from the number of bytes, given what is read from each
dimension. -/
def byteExpression (branch : Branch) (dimensions : List Expression) : Expression :=
  dimensions.foldl Expression.splice (.single (.single (.sizeOf branch.scalar.typeName)))

variable {branch : Branch} {dimensions : List Expression}

theorem enclosed_typeName (scalar : Scalar) : ')' ∉ scalar.typeName.toList := by
  cases scalar <;> decide

theorem reads_byteCount (array : branch.isArray = true)
    (readAll : List.Forall₂ Reads branch.shape.spellings dimensions) :
    Reads branch.byteCount (branch.byteExpression dimensions) := by
  obtain ⟨spelling, spellings, nonempty⟩ : ∃ spelling spellings,
      branch.shape.spellings = spelling :: spellings := by
    apply List.exists_cons_of_ne_nil
    simpa [Shape.spellings, isArray, Shape.isScalar] using array
  have reads := (Expression.reads_sizeOf (enclosed_typeName branch.scalar)).foldl_star readAll
  have text_eq : branch.byteCount = branch.shape.spellings.foldl
      (fun text next => text ++ " * " ++ next) ("sizeof(" ++ branch.scalar.typeName ++ ")") := by
    rw [nonempty, foldl_star, byteCount, Shape.product, nonempty]
    simp only [String.append_assoc]
    rfl
  rw [text_eq]
  exact reads

end Branch

namespace Target

theorem code_assign_array {target : Target} (role : target.role ≠ .element) {branch : Branch}
    (array : branch.isArray = true) :
    target.code .assign branch =
      ["std::memcpy(" ++ branch.name ++ ", " ++ target.vocabulary.origin ++ "." ++ branch.name ++
        ", " ++ branch.byteCount ++ ");"] := by
  have treated : target.treats .assign branch = true := by
    simp [treats, Operation.supportedBy, Operation.callsRuntime, role]
  simp only [code, treated, if_true, body, assignment, array, Branch.byteCount, String.append_assoc]
  rfl

/-- The number of bytes that an array assignment copies is read in one way.  It
is the size of the scalar type times all dimensions if these are products.  A
single dimension that is a sum is multiplied rightly only if the size is one or
the products behind its first one add up to nothing. -/
theorem assignment_byte_count (target : Target) (role : target.role ≠ .element) (branch : Branch)
    (array : branch.isArray = true) (dimensions : List Expression)
    (readAll : List.Forall₂ Reads branch.shape.spellings dimensions) :
    target.code .assign branch =
        ["std::memcpy(" ++ branch.name ++ ", " ++ target.vocabulary.origin ++ "." ++
          branch.name ++ ", " ++ branch.byteCount ++ ");"] ∧
      (∀ count, Reads branch.byteCount count ↔ count = branch.byteExpression dimensions) ∧
      ∀ (sizes names : String → Int) (count : Expression), Reads branch.byteCount count →
        ((∀ dimension ∈ dimensions, ∃ term, dimension = .single term) →
          count.value sizes names = sizes branch.scalar.typeName *
            (dimensions.map (Expression.value sizes names)).prod) ∧
        ∀ dimension, dimensions = [dimension] →
          (count.value sizes names =
              sizes branch.scalar.typeName * dimension.value sizes names ↔
            sizes branch.scalar.typeName = 1 ∨ dimension.others sizes names = 0) := by
  have reads := Branch.reads_byteCount array readAll
  refine ⟨code_assign_array role array, fun count => ?_, fun sizes names count readCount => ?_⟩
  · constructor
    · intro readCount
      exact readCount.unique reads
    · rintro rfl
      exact reads
  · obtain rfl := readCount.unique reads
    constructor
    · exact Expression.foldl_splice_single sizes names _
    · rintro dimension rfl
      exact Expression.value_splice_single_eq_mul_iff sizes names
        (.single (.sizeOf branch.scalar.typeName)) dimension

/-- A dimension that is a product of a constant and a name. -/
theorem assignment_byte_count_product :
    Role.entry ≠ .element ∧
      (⟨"x", .float64, .ofTokens ["2 * n"], ⟨false, false⟩, "", ""⟩ : Branch).isArray = true ∧
      List.Forall₂ Reads ["2 * n"]
        [.single (.times (.single (.constant 2)) (.name "n"))] ∧
      ({ role := .entry } : Target).code .assign
          ⟨"x", .float64, .ofTokens ["2 * n"], ⟨false, false⟩, "", ""⟩ =
        ["std::memcpy(x, _src.x, sizeof(Double_t) * 2 * n);"] ∧
      Reads "sizeof(Double_t) * 2 * n"
        (.single (.times (.times (.single (.sizeOf "Double_t")) (.constant 2)) (.name "n"))) ∧
      (Expression.single (.times (.times (.single (.sizeOf "Double_t")) (.constant 2))
        (.name "n"))).value (fun _ => 8) (fun _ => 3) = 8 * 6 := by
  have name : Reads "n" (.single (.single (.name "n"))) :=
    Expression.reads_name (Lexeme.isRun_of_all (by decide) (by decide)) (by simp +decide)
  have reads : Reads "2 * n" (.single (.times (.single (.constant 2)) (.name "n"))) :=
    (Expression.reads_constant 2).splice name
  have readAll := List.Forall₂.cons reads .nil
  have counted := assignment_byte_count { role := .entry } (by decide)
    ⟨"x", .float64, .ofTokens ["2 * n"], ⟨false, false⟩, "", ""⟩ (by decide) _ readAll
  have readCount := (counted.2.1 _).mpr rfl
  exact ⟨by decide, by decide, readAll, counted.1.trans (by decide), readCount,
    (counted.2.2 (fun _ => 8) (fun _ => 3) _ readCount).1 (by simp)⟩

/-- A dimension that is a sum of two names: of the eight bytes that two values
have, five are copied. -/
theorem assignment_byte_count_sum :
    (Branch.read "x[a + b]/F").value =
        .ok ⟨"x", .float32, .ofTokens ["a + b"], ⟨false, false⟩, "", ""⟩ ∧
      ({ role := .entry } : Target).code .assign
          ⟨"x", .float32, .ofTokens ["a + b"], ⟨false, false⟩, "", ""⟩ =
        ["std::memcpy(x, _src.x, sizeof(Float_t) * a + b);"] ∧
      Reads "a + b" (.signed (.single (.single (.name "a"))) .plus (.single (.name "b"))) ∧
      4 * (Expression.signed (.single (.single (.name "a"))) .plus (.single (.name "b"))).value
        (fun _ => 4) (fun _ => 1) = 8 ∧
      ∀ count, Reads "sizeof(Float_t) * a + b" count →
        count.value (fun _ => 4) (fun _ => 1) = 5 := by
  have first : Reads "a" (.single (.single (.name "a"))) :=
    Expression.reads_name (Lexeme.isRun_of_all (by decide) (by decide)) (by simp +decide)
  have second : Reads "b" (.single (.single (.name "b"))) :=
    Expression.reads_name (Lexeme.isRun_of_all (by decide) (by decide)) (by simp +decide)
  have reads : Reads "a + b"
      (.signed (.single (.single (.name "a"))) .plus (.single (.name "b"))) :=
    first.signed .plus second
  have readsCount : Reads "sizeof(Float_t) * a + b" _ :=
    (Expression.reads_sizeOf (by decide : ')' ∉ "Float_t".toList)).splice reads
  refine ⟨by decide +kernel, by decide +kernel, reads, by decide, fun count readCount => ?_⟩
  rw [readCount.unique readsCount]
  decide

end Target

end ColumnCode

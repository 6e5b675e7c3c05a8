import ColumnCode.Proofs.Expression
import ColumnCode.Proofs.LiteralDimension
import ColumnCode.Proofs.MemberReading
import Mathlib.Data.List.Forall2

/-!
# The members of records

A record holds its values itself.  Where all dimensions of a column are plain
numbers, its member has a value type that a compiler knows entirely: a scalar
type inside arrays of known extents.  The declaration tells this type, whether
the member is mutable, its name and the literal in its braces.
-/

namespace ColumnCode

open Definition (Stops run_injective stops_cons)

namespace Scalar

theorem typeName_injective {first second : Scalar} (same : first.typeName = second.typeName) :
    first = second := by
  cases first <;> cases second <;> first | rfl | exact absurd same (by decide)

/-- The name of a scalar type is not the end of an array type. -/
theorem reverse_typeName_ne (scalar : Scalar) (rest : List Char) :
    scalar.typeName.toList.reverse ≠ '>' :: rest := by
  have last : scalar.typeName.toList.reverse.head? ≠ some '>' := by
    cases scalar <;> decide
  intro same
  exact last (by rw [same, List.head?_cons])

end Scalar

/-- A scalar type, or an array of values of one type. -/
inductive ValueType where
  | single (scalar : Scalar)
  | array (element : ValueType) (extent : Nat)
  deriving DecidableEq, Repr

namespace ValueType

def render : ValueType → String
  | single scalar => scalar.typeName
  | array element extent => Shape.arrayOf element.render (toString extent)

/-- The extents of an array, outermost first. -/
def extents : ValueType → List Nat
  | single _ => []
  | array element extent => extent :: element.extents

def ofExtents (scalar : Scalar) (extents : List Nat) : ValueType :=
  extents.foldr (fun extent element => .array element extent) (.single scalar)

@[simp]
theorem extents_ofExtents (scalar : Scalar) (extents : List Nat) :
    (ofExtents scalar extents).extents = extents := by
  induction extents with
  | nil => rfl
  | cons extent extents ih => exact congrArg (extent :: ·) ih

/-- An array type from its end to its beginning. -/
theorem reverse_render_array (element : ValueType) (extent : Nat) :
    (array element extent).render.toList.reverse =
      '>' :: (extent.repr.toList.reverse ++
        ' ' :: ',' :: (element.render.toList.reverse ++ "std::array<".toList.reverse)) := by
  simp [render, Shape.toList_arrayOf]

theorem render_injective {first second : ValueType} (same : first.render = second.render) :
    first = second := by
  -- The extent of the outermost array stands at the end, and its element before it.
  induction first generalizing second with
  | single scalar =>
      cases second with
      | single other => exact congrArg single (Scalar.typeName_injective same)
      | array other extent =>
          have reversed := congrArg (·.toList.reverse) same
          exact absurd (reversed.trans (reverse_render_array other extent))
            (scalar.reverse_typeName_ne _)
  | array element extent ih =>
      have reversed := congrArg (·.toList.reverse) same
      simp only [reverse_render_array] at reversed
      cases second with
      | single scalar => exact absurd reversed.symm (scalar.reverse_typeName_ne _)
      | array other otherExtent =>
          have digits (number : Nat) :
              ∀ character ∈ number.repr.toList.reverse, character.isDigit = true :=
            fun _ member => Lexeme.isDigit_of_mem_repr (List.mem_reverse.mp member)
          rw [reverse_render_array, List.cons.injEq] at reversed
          obtain ⟨extents, elements⟩ := run_injective (digits extent) (stops_cons.mpr (by decide))
            (digits otherExtent) (stops_cons.mpr (by decide)) reversed.2
          have renders : element.render.toList.reverse = other.render.toList.reverse := by
            simpa using elements
          rw [ih (String.toList_inj.mp (List.reverse_injective renders)),
            Lexeme.repr_injective (List.reverse_injective extents)]

/-- A type does not begin like the word for mutable members. -/
theorem head?_render_ne (type : ValueType) : type.render.toList.head? ≠ some 'm' := by
  cases type with
  | single scalar => cases scalar <;> decide
  | array element extent => simp [render, Shape.toList_arrayOf]

end ValueType

/-- A member of a record whose type is known entirely. -/
@[ext]
structure RecordMember where
  mutable : Bool
  type : ValueType
  name : String
  initializer : String
  deriving DecidableEq, Repr

namespace RecordMember

def member (record : RecordMember) : Member where
  type := (if record.mutable then "mutable " else "") ++ record.type.render
  name := record.name
  braced? := some record.initializer

/-- The line declares the member. -/
def Reads (line : String) (record : RecordMember) : Prop :=
  Member.Reads line record.member

theorem type_injective {first second : ValueType} {isFirst isSecond : Bool}
    (same : (if isFirst then "mutable " else "") ++ first.render =
      (if isSecond then "mutable " else "") ++ second.render) :
    isFirst = isSecond ∧ first = second := by
  have notMutable {type other : ValueType} : "mutable " ++ type.render ≠ "" ++ other.render := by
    intro equal
    have heads := congrArg (·.toList.head?) equal
    exact other.head?_render_ne (by simpa using heads.symm)
  cases isFirst <;> cases isSecond
  · exact ⟨rfl, ValueType.render_injective (by simpa using same)⟩
  · exact absurd same.symm notMutable
  · exact absurd same notMutable
  · exact ⟨rfl, ValueType.render_injective (by simpa using same)⟩

theorem member_injective : Function.Injective member := by
  intro first second same
  obtain ⟨types, names, initializers⟩ := Member.mk.inj same
  obtain ⟨mutables, valueTypes⟩ := type_injective types
  exact RecordMember.ext mutables valueTypes names (Option.some.inj initializers)

end RecordMember

namespace Dimension

/-- A dimension is a positive number, written without zeros in front. -/
def HasExtent : Dimension → Nat → Prop
  | literal spelling value, extent =>
      0 < extent ∧ value.toNat = extent ∧ spelling = toString extent
  | symbol _, _ => False

theorem HasExtent.pos {dimension : Dimension} {extent : Nat}
    (hasExtent : dimension.HasExtent extent) : 0 < extent := by
  cases dimension with
  | literal spelling value => exact hasExtent.1
  | symbol spelling => exact hasExtent.elim

theorem HasExtent.spelling_eq {dimension : Dimension} {extent : Nat}
    (hasExtent : dimension.HasExtent extent) : dimension.spelling = toString extent := by
  cases dimension with
  | literal spelling value => exact hasExtent.2.2
  | symbol spelling => exact hasExtent.elim

theorem wordOfDigits?_repr {number : Nat} (bound : number < UInt64.size) :
    wordOfDigits? number.repr.toList = some (UInt64.ofNat number) := by
  have nonempty : number.repr.toList ≠ [] := by simp [Nat.toDigits_ne_nil]
  have value : Nat.ofDigitChars 10 number.repr.toList 0 = number := by
    simp [Nat.ofDigitChars_ten_toDigits]
  exact wordOfDigits?_eq_some_iff.mpr ⟨nonempty, fun _ => Lexeme.isDigit_of_mem_repr,
    (UInt64.toNat_ofNat_of_lt' bound).trans value.symm⟩

/-- The tokens of positive words without zeros in front, and no others, have an
extent. -/
theorem hasExtent_ofToken_iff {token : String} {extent : Nat} :
    (ofToken token).HasExtent extent ↔
      0 < extent ∧ extent < UInt64.size ∧ token = toString extent := by
  constructor
  · unfold ofToken
    split
    next value _ =>
      rintro ⟨positive, rfl, spelled⟩
      exact ⟨positive, value.toNat_lt_size, spelled⟩
    next => exact False.elim
  · rintro ⟨positive, bound, rfl⟩
    have literal : ofToken (toString extent) = .literal (toString extent) (UInt64.ofNat extent) :=
      ofToken_eq_literal_iff.mpr ⟨rfl, wordOfDigits?_repr bound⟩
    rw [literal]
    exact ⟨positive, UInt64.toNat_ofNat_of_lt' bound, rfl⟩

end Dimension

namespace Shape

/-- All dimensions are positive numbers, these ones. -/
def HasExtents (shape : Shape) (extents : List Nat) : Prop :=
  List.Forall₂ Dimension.HasExtent shape.dimensions extents

variable {shape : Shape} {extents : List Nat}

theorem HasExtents.length_eq (hasExtents : shape.HasExtents extents) :
    extents.length = shape.rank :=
  (List.Forall₂.length_eq hasExtents).symm

theorem HasExtents.spellings_eq (hasExtents : shape.HasExtents extents) :
    shape.spellings = extents.map toString := by
  have spelled : List.Forall₂ (fun dimension extent => dimension.spelling = toString extent)
      shape.dimensions extents :=
    hasExtents.imp fun _ _ hasExtent => hasExtent.spelling_eq
  have mapped := List.forall₂_map_left_iff.mpr (List.forall₂_map_right_iff.mpr spelled)
  rwa [List.forall₂_eq_eq_eq] at mapped

theorem HasExtents.wrap_typeName (hasExtents : shape.HasExtents extents) (scalar : Scalar) :
    shape.wrap scalar.typeName = (ValueType.ofExtents scalar extents).render := by
  rw [wrap, hasExtents.spellings_eq, List.foldr_map]
  clear hasExtents
  induction extents with
  | nil => rfl
  | cons extent extents ih => exact congrArg (arrayOf · (toString extent)) ih

end Shape

/-- The member that records have for a branch whose dimensions have the
extents. -/
def Branch.recordMember (branch : Branch) (extents : List Nat) : RecordMember where
  mutable := branch.modifiers.mutable
  type := .ofExtents branch.scalar extents
  name := branch.name
  initializer := branch.initializer

namespace Target

variable {target : Target} {branch : Branch} {extents : List Nat}

theorem member_eq_recordMember (holdsValues : target.role.holdsValues = true)
    (hasExtents : branch.shape.HasExtents extents) :
    target.member branch = (branch.recordMember extents).member := by
  have sameMember := congrArg (fun type => Member.mk
    ((if branch.modifiers.mutable then "mutable " else "") ++ type) branch.name
      (some branch.initializer)) (hasExtents.wrap_typeName branch.scalar)
  rcases target with ⟨role, backing, vocabulary⟩
  cases role with
  | storage => cases holdsValues
  | cached => exact sameMember
  | entry => exact sameMember
  | element => cases holdsValues

/-- A record declares one member for a branch, and its type, name and literal
are read from the line in one way. -/
theorem reads_record_iff (holdsValues : target.role.holdsValues = true)
    (wellFormed : branch.WellFormed) (hasExtents : branch.shape.HasExtents extents)
    (record : RecordMember) :
    RecordMember.Reads (target.declaration branch) record ↔
      record = branch.recordMember extents := by
  have reads := target.reads_declaration wellFormed
  rw [member_eq_recordMember holdsValues hasExtents] at reads
  constructor
  · exact fun others => RecordMember.member_injective (others.unique reads)
  · rintro rfl
    exact reads

end Target

end ColumnCode

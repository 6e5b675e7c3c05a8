import ColumnCode.Proofs.BackingChoice
import ColumnCode.Proofs.ByteCount
import ColumnCode.Proofs.MemberNames

/-!
# Which columns a constructor covers

An element binds a reference for each column in all of its constructors.  A
record copies a column in one of two places: a scalar in the list of its copying
constructor, and an array by its bytes in an assignment behind it.
-/

namespace ColumnCode

open Definition (IsName stops_cons)

namespace Target

variable {target : Target} {branches : List Branch}

/-- The fragment initializes the member with the name. -/
def Binds (name fragment : String) : Prop :=
  (name ++ "(").toList <+: fragment.toList

/-- The line copies bytes. -/
def copiesBytes (line : String) : Bool :=
  "std::memcpy(".toList.isPrefixOf line.toList

section Elements

variable (element : target.role = .element) (constructor : Constructor)

include element

theorem initializer?_element (branch : Branch) :
    ∃ source, target.initializer? constructor branch = some (branch.name ++ "(" ++ source) := by
  rcases target with ⟨role, backing, vocabulary⟩
  obtain rfl : role = .element := element
  cases constructor with
  | positioned =>
      exact ⟨vocabulary.givenStore ++ "." ++ branch.name ++ "[" ++ vocabulary.givenPosition ++ "])",
        by simp [initializer?, String.append_assoc]⟩
  | plain | copying =>
      exact ⟨vocabulary.ownStore ++ "." ++ branch.name ++ "[0])",
        by simp [initializer?, String.append_assoc]⟩

/-- Each constructor of an element binds all columns, one after the other. -/
theorem binds_initializers (branches : List Branch) :
    List.Forall₂ Binds (branches.map Branch.name) (target.initializers constructor branches) := by
  induction branches with
  | nil => exact .nil
  | cons branch branches ih =>
      obtain ⟨source, fragment⟩ := initializer?_element element constructor branch
      rw [List.map_cons, initializers, List.filterMap_cons_some fragment]
      refine .cons ?_ ih
      exact ⟨source.toList, by simp⟩

end Elements

section Records

variable (record : target.role.holdsValues = true)

include record

theorem initializer?_copying (branch : Branch) :
    target.initializer? .copying branch =
      if branch.isArray then none
      else some (branch.name ++ "(" ++ target.vocabulary.origin ++ "." ++ branch.name ++ ")") := by
  rcases target with ⟨role, backing, vocabulary⟩
  cases role with
  | cached | entry => rfl
  | storage | element => exact absurd record Bool.false_ne_true

theorem initializers_copying (branches : List Branch) :
    target.initializers .copying branches =
      (branches.filter (!·.isArray)).map fun branch =>
        branch.name ++ "(" ++ target.vocabulary.origin ++ "." ++ branch.name ++ ")" := by
  induction branches with
  | nil => rfl
  | cons branch branches ih =>
      have fragment := initializer?_copying record branch
      rw [initializers] at ih ⊢
      cases array : branch.isArray <;> simp [array, fragment, ih]

theorem ne_element_of_holdsValues : target.role ≠ .element := by
  intro element
  rw [element] at record
  exact Bool.false_ne_true record

theorem initializers_eq_nil {constructor : Constructor} (other : constructor ≠ .copying)
    (branches : List Branch) : target.initializers constructor branches = [] := by
  refine List.filterMap_eq_nil_iff.mpr fun branch _ => ?_
  rcases target with ⟨role, backing, vocabulary⟩
  cases role with
  | cached | entry =>
      cases constructor with
      | plain | positioned => rfl
      | copying => exact absurd rfl other
  | storage | element => exact absurd record Bool.false_ne_true

end Records

section Assignments

variable (notElement : target.role ≠ .element)

theorem assignment_array (target : Target) {branch : Branch} (array : branch.isArray = true) :
    target.assignment branch =
      "std::memcpy(" ++ branch.name ++ ", " ++ target.vocabulary.origin ++ "." ++ branch.name ++
        ", " ++ branch.byteCount ++ ");" := by
  simp only [assignment, array, if_true, Branch.byteCount, String.append_assoc]
  rfl

theorem copiesBytes_assignment_array {branch : Branch} (array : branch.isArray = true) :
    copiesBytes (target.assignment branch) = true := by
  simp [copiesBytes, assignment, array]

/-- No name ends before a colon, so the assignment of a scalar does not look like
a copy of bytes. -/
theorem copiesBytes_assignment_scalar {branch : Branch} (isName : IsName branch.name.toList)
    (scalar : branch.isArray = false) : copiesBytes (target.assignment branch) = false := by
  rw [copiesBytes, ← Bool.not_eq_true, List.isPrefixOf_iff_prefix]
  rintro ⟨others, same⟩
  have written : (target.assignment branch).toList = branch.name.toList ++ ' ' :: ("= " ++
      target.vocabulary.origin ++ "." ++ branch.name ++ ";").toList := by
    simp [assignment, scalar]
  have copy : "std::memcpy(".toList = "std".toList ++ ':' :: ":memcpy(".toList := by decide
  have isNamespace : IsName "std".toList := by decide
  rw [written, copy, List.append_assoc, List.cons_append] at same
  obtain ⟨-, ends⟩ := Definition.run_injective isNamespace.inside (stops_cons.mpr (by decide))
    isName.inside (stops_cons.mpr (by decide)) same
  exact absurd (List.cons.inj ends).1 (by decide)

include notElement

theorem codeAll_assign (branches : List Branch) :
    target.codeAll .assign branches = branches.map target.assignment := by
  rw [codeAll, List.map_eq_flatMap]
  refine List.flatMap_congr fun branch _ => ?_
  simp [code, treats, Operation.supportedBy, Operation.callsRuntime, body, notElement]

/-- The copies of bytes are the assignments of the arrays. -/
theorem filter_codeAll_assign (isNames : ∀ branch ∈ branches, IsName branch.name.toList) :
    (target.codeAll .assign branches).filter copiesBytes =
      (branches.filter (·.isArray)).map target.assignment := by
  have copies : ∀ branch ∈ branches, copiesBytes (target.assignment branch) = branch.isArray := by
    intro branch isBranch
    cases array : branch.isArray with
    | true => exact copiesBytes_assignment_array array
    | false => exact copiesBytes_assignment_scalar (isNames branch isBranch) array
  rw [codeAll_assign notElement, List.filter_map]
  exact congrArg _ (List.filter_congr copies)

end Assignments

/-- A record copies a column in its list of initializers or by its bytes, and
not in both ways. -/
theorem copied_once (record : target.role.holdsValues = true) {branch : Branch}
    (isName : IsName branch.name.toList) :
    (target.initializers .copying [branch]).length +
      ((target.codeAll .assign [branch]).filter copiesBytes).length = 1 := by
  have isNames : ∀ other ∈ [branch], IsName other.name.toList := by simpa using isName
  rw [initializers_copying record,
    filter_codeAll_assign (ne_element_of_holdsValues record) isNames]
  cases array : branch.isArray <;> simp [array]

/-- Every class declares a member for each column, under its name. -/
theorem declaresNames_declare (target : Target)
    (wellFormed : ∀ branch ∈ branches, branch.WellFormed) :
    DeclaresNames (target.codeAll .declare branches) (branches.map Branch.name) := by
  rw [codeAll_declare]
  exact declaresNames_map fun branch isBranch =>
    target.reads_declaration (wellFormed branch isBranch)

/-- An element declares a reference for each column, and every constructor binds
all of them in order.  A record copies its scalars in the list of the copying
constructor and its arrays by their bytes, each column in one of the two places,
and its other constructors have no lists.  A storage has none at all. -/
theorem columns_covered_once (target : Target) (branches : List Branch)
    (read : ∀ branch ∈ branches, ∃ line, (Branch.read line).value = .ok branch) :
    (target.role = .element →
        DeclaresNames (target.codeAll .declare branches) (branches.map Branch.name) ∧
        ∀ constructor, List.Forall₂ Binds (branches.map Branch.name)
          (target.initializers constructor branches)) ∧
      (target.role.holdsValues = true →
        target.initializers .copying branches =
            ((branches.filter (!·.isArray)).map fun branch =>
              branch.name ++ "(" ++ target.vocabulary.origin ++ "." ++ branch.name ++ ")") ∧
          (∀ listing, (target.write .assign branches listing).value.text =
            listing.text ++ String.join ((target.codeAll .assign branches).map (· ++ "\n"))) ∧
          (target.codeAll .assign branches).filter copiesBytes =
            ((branches.filter (·.isArray)).map fun branch =>
              "std::memcpy(" ++ branch.name ++ ", " ++ target.vocabulary.origin ++ "." ++
                branch.name ++ ", " ++ branch.byteCount ++ ");") ∧
          (∀ branch ∈ branches,
            (target.initializers .copying [branch]).length +
              ((target.codeAll .assign [branch]).filter copiesBytes).length = 1) ∧
          target.initializers .plain branches = [] ∧
          target.initializers .positioned branches = []) ∧
      (target.role = .storage →
        ∀ constructor, target.initializers constructor branches = []) := by
  have wellFormed : ∀ branch ∈ branches, branch.WellFormed := by
    intro branch isBranch
    obtain ⟨line, accepted⟩ := read branch isBranch
    exact Branch.wellFormed_of_read accepted
  have isNames : ∀ branch ∈ branches, IsName branch.name.toList :=
    fun branch isBranch => (wellFormed branch isBranch).isName
  refine ⟨fun element => ⟨declaresNames_declare target wellFormed, fun constructor => ?_⟩,
    fun record => ?_, fun storage constructor => ?_⟩
  · exact binds_initializers element constructor branches
  · refine ⟨initializers_copying record branches, text_write_append target .assign branches, ?_,
      fun branch isBranch => copied_once record (isNames branch isBranch),
      initializers_eq_nil record (by decide) branches,
      initializers_eq_nil record (by decide) branches⟩
    rw [filter_codeAll_assign (ne_element_of_holdsValues record) isNames]
    refine List.map_congr_left fun branch member => ?_
    exact assignment_array target (List.mem_filter.mp member).2
  · rcases target with ⟨role, backing, vocabulary⟩
    obtain rfl : role = .storage := storage
    exact initializers_storage backing vocabulary constructor branches

/-- A scalar, a transient array and a transient scalar. -/
theorem columns_covered_once_mixed :
    (∀ branch ∈ [(⟨"pt", .float32, .ofTokens [], ⟨false, false⟩, "", ""⟩ : Branch),
        ⟨"v", .float32, .ofTokens ["3"], ⟨true, false⟩, "", ""⟩,
        ⟨"std", .int32, .ofTokens [], ⟨true, false⟩, "", ""⟩],
      ∃ line, (Branch.read line).value = .ok branch) ∧
      ({ role := .entry } : Target).initializers .copying
          [⟨"pt", .float32, .ofTokens [], ⟨false, false⟩, "", ""⟩,
            ⟨"v", .float32, .ofTokens ["3"], ⟨true, false⟩, "", ""⟩,
            ⟨"std", .int32, .ofTokens [], ⟨true, false⟩, "", ""⟩] =
        ["pt(_src.pt)", "std(_src.std)"] ∧
      (({ role := .entry } : Target).codeAll .assign
          [⟨"pt", .float32, .ofTokens [], ⟨false, false⟩, "", ""⟩,
            ⟨"v", .float32, .ofTokens ["3"], ⟨true, false⟩, "", ""⟩,
            ⟨"std", .int32, .ofTokens [], ⟨true, false⟩, "", ""⟩]).filter copiesBytes =
        ["std::memcpy(v, _src.v, sizeof(Float_t) * 3);"] ∧
      List.Forall₂ Binds ["pt", "v", "std"]
        ["pt(_data.pt[_idx])", "v(_data.v[_idx])", "std(_data.std[_idx])"] := by
  have read : ∀ branch ∈ [(⟨"pt", .float32, .ofTokens [], ⟨false, false⟩, "", ""⟩ : Branch),
        ⟨"v", .float32, .ofTokens ["3"], ⟨true, false⟩, "", ""⟩,
        ⟨"std", .int32, .ofTokens [], ⟨true, false⟩, "", ""⟩],
      ∃ line, (Branch.read line).value = .ok branch := by
    simp only [List.forall_mem_cons]
    exact ⟨⟨"pt/F", by decide +kernel⟩, ⟨"v[3]/F/!", by decide +kernel⟩,
      ⟨"std/I/!", by decide +kernel⟩, by simp⟩
  obtain ⟨-, records, -⟩ := columns_covered_once { role := .entry } _ read
  obtain ⟨copied, -, copiedAsBytes, -⟩ := records rfl
  obtain ⟨elements, -⟩ := columns_covered_once { role := .element } _ read
  have bound := (elements rfl).2 .positioned
  exact ⟨read, copied.trans (by decide +kernel), copiedAsBytes.trans (by decide +kernel), bound⟩

end Target

end ColumnCode

import ColumnCode.Proofs.MemberReading
import Mathlib.Data.List.Forall2
import Mathlib.Data.List.Nodup

/-!
# The member names of a storage

A storage that holds its columns in vectors has two members for each column:
the vector, under the name of the column, and a pointer to it, under that name
with a suffix.  A column may itself be named with the suffix.  That is the only
way in which two members get the same name.
-/

namespace ColumnCode

/-- The lines declare one member each, under these names. -/
def DeclaresNames (lines names : List String) : Prop :=
  List.Forall₂ (fun line name => ∃ member, Member.Reads line member ∧ member.name = name)
    lines names

theorem DeclaresNames.unique {lines first second : List String}
    (declaresFirst : DeclaresNames lines first) (declaresSecond : DeclaresNames lines second) :
    first = second := by
  have oneName : Relator.RightUnique fun line name =>
      ∃ member, Member.Reads line member ∧ member.name = name := by
    rintro line _ _ ⟨member, reads, rfl⟩ ⟨other, readsOther, rfl⟩
    rw [reads.unique readsOther]
  exact oneName.forall₂ declaresFirst declaresSecond

/-- Lines that declare a member for each branch. -/
theorem declaresNames_map {branches : List Branch} {line : Branch → String}
    {member : Branch → Member} (reads : ∀ branch ∈ branches, Member.Reads (line branch)
      (member branch)) :
    DeclaresNames (branches.map line) (branches.map fun branch => (member branch).name) := by
  refine List.forall₂_map_left_iff.mpr (List.forall₂_map_right_iff.mpr (List.forall₂_same.mpr ?_))
  intro branch isBranch
  exact ⟨member branch, reads branch isBranch, rfl⟩

namespace Target

variable {target : Target} {branches : List Branch}

/-- The names of the vectors and of the pointers to them. -/
def memberNames (branches : List Branch) : List String :=
  branches.map Branch.name ++ branches.map pointerName

/-- The vectors differ in their names, and so do the pointers.  Only a vector
and a pointer can have the same name. -/
theorem nodup_memberNames_iff (distinct : (branches.map Branch.name).Nodup) :
    (memberNames branches).Nodup ↔
      ∀ first ∈ branches, ∀ second ∈ branches, second.name ≠ first.name ++ "Ptr_" := by
  have pointers : (branches.map pointerName).Nodup := by
    have suffixed := distinct.map (f := (· ++ "Ptr_")) fun _ _ same =>
      (String.append_left_inj "Ptr_").mp same
    rwa [List.map_map] at suffixed
  rw [memberNames, List.nodup_append]
  constructor
  · rintro ⟨-, -, apart⟩ first isFirst second isSecond
    exact apart _ (List.mem_map_of_mem isSecond) _ (List.mem_map_of_mem isFirst)
  · intro apart
    refine ⟨distinct, pointers, ?_⟩
    intro vector isVector pointer isPointer
    obtain ⟨second, isSecond, rfl⟩ := List.mem_map.mp isVector
    obtain ⟨first, isFirst, rfl⟩ := List.mem_map.mp isPointer
    exact apart first isFirst second isSecond

theorem codeAll_declare (target : Target) (branches : List Branch) :
    target.codeAll .declare branches = branches.map target.declaration :=
  List.map_eq_flatMap.symm

theorem codeAll_declarePointer (vectors : target.usesVectors = true) (branches : List Branch) :
    target.codeAll .declarePointer branches = branches.map pointerDeclaration := by
  have supported : Operation.supportedBy .declarePointer target.role target.backing = true :=
    vectors
  rw [codeAll, List.map_eq_flatMap]
  refine List.flatMap_congr fun branch _ => ?_
  simp [code, treats, supported, Operation.callsRuntime, body]

/-- The lines for the vectors and the pointers declare members under their
names, and nothing else can be read from them. -/
theorem declaresNames_iff (vectors : target.usesVectors = true)
    (wellFormed : ∀ branch ∈ branches, branch.WellFormed) (names : List String) :
    DeclaresNames (target.codeAll .declare branches ++ target.codeAll .declarePointer branches)
        names ↔ names = memberNames branches := by
  have declared : DeclaresNames
      (target.codeAll .declare branches ++ target.codeAll .declarePointer branches)
      (memberNames branches) := by
    rw [codeAll_declare, codeAll_declarePointer vectors]
    exact List.rel_append
      (declaresNames_map fun branch isBranch =>
        target.reads_declaration (wellFormed branch isBranch))
      (declaresNames_map fun branch isBranch =>
        reads_pointerDeclaration (wellFormed branch isBranch))
  constructor
  · exact fun declares => declares.unique declared
  · rintro rfl
    exact declared

/-- A storage with vectors declares for each column the vector and the pointer.
If the columns have different names, so have all these members, unless one
column is named like another with the suffix of the pointers. -/
theorem member_names_distinct_iff
    (read : ∀ branch ∈ branches, ∃ line, (Branch.read line).value = .ok branch)
    (distinct : (branches.map Branch.name).Nodup) (vectors : target.usesVectors = true) :
    (∀ names, DeclaresNames
        (target.codeAll .declare branches ++ target.codeAll .declarePointer branches) names ↔
          names = branches.map Branch.name ++ branches.map pointerName) ∧
      ((branches.map Branch.name ++ branches.map pointerName).Nodup ↔
        ∀ first ∈ branches, ∀ second ∈ branches, second.name ≠ first.name ++ "Ptr_") := by
  have wellFormed : ∀ branch ∈ branches, branch.WellFormed := by
    intro branch isBranch
    obtain ⟨line, accepted⟩ := read branch isBranch
    exact Branch.wellFormed_of_read accepted
  exact ⟨declaresNames_iff vectors wellFormed, nodup_memberNames_iff distinct⟩

/-- Two columns, one of them with a suffix that is no pointer's. -/
theorem member_names_distinct_iff_apart :
    (∀ branch ∈ [(⟨"x", .float32, .ofTokens ["n"], ⟨false, false⟩, "", ""⟩ : Branch),
        ⟨"xPtr", .int32, .ofTokens [], ⟨true, false⟩, "", " // a"⟩],
      ∃ line, (Branch.read line).value = .ok branch) ∧
      ["x", "xPtr"].Nodup ∧
      (⟨.storage, .vector, .standard⟩ : Target).usesVectors = true ∧
      DeclaresNames
        ["std::vector<std::array<Float_t, n>> x;", "std::vector<Int_t> xPtr; // transient",
          "std::vector<std::array<Float_t, n>>* xPtr_{&x};",
          "std::vector<Int_t>* xPtrPtr_{&xPtr};"]
        ["x", "xPtr", "xPtr_", "xPtrPtr_"] ∧
      ["x", "xPtr", "xPtr_", "xPtrPtr_"].Nodup := by
  have read : ∀ branch ∈
      [(⟨"x", .float32, .ofTokens ["n"], ⟨false, false⟩, "", ""⟩ : Branch),
        ⟨"xPtr", .int32, .ofTokens [], ⟨true, false⟩, "", " // a"⟩],
      ∃ line, (Branch.read line).value = .ok branch := by
    intro branch member
    rcases List.mem_pair.mp member with rfl | rfl
    · exact ⟨"x[n]/F", by decide +kernel⟩
    · exact ⟨"xPtr/I/! // a", by decide +kernel⟩
  have distinct := member_names_distinct_iff read (by decide)
    (show (⟨.storage, .vector, .standard⟩ : Target).usesVectors = true by decide)
  exact ⟨read, by decide, by decide, (distinct.1 _).mpr rfl, distinct.2.mpr (by decide)⟩

/-- Two columns of which one is named like the pointer to the other: their names
differ, and two of the members that are declared for them have the same name. -/
theorem member_names_clash :
    (∀ branch ∈ [(⟨"x", .float32, .ofTokens [], ⟨false, false⟩, "", ""⟩ : Branch),
        ⟨"xPtr_", .float32, .ofTokens [], ⟨false, false⟩, "", ""⟩],
      ∃ line, (Branch.read line).value = .ok branch) ∧
      ["x", "xPtr_"].Nodup ∧
      (⟨.storage, .vector, .standard⟩ : Target).usesVectors = true ∧
      DeclaresNames
        ((⟨.storage, .vector, .standard⟩ : Target).codeAll .declare
            [⟨"x", .float32, .ofTokens [], ⟨false, false⟩, "", ""⟩,
              ⟨"xPtr_", .float32, .ofTokens [], ⟨false, false⟩, "", ""⟩] ++
          (⟨.storage, .vector, .standard⟩ : Target).codeAll .declarePointer
            [⟨"x", .float32, .ofTokens [], ⟨false, false⟩, "", ""⟩,
              ⟨"xPtr_", .float32, .ofTokens [], ⟨false, false⟩, "", ""⟩])
        ["x", "xPtr_", "xPtr_", "xPtr_Ptr_"] ∧
      ¬["x", "xPtr_", "xPtr_", "xPtr_Ptr_"].Nodup := by
  have read : ∀ branch ∈
      [(⟨"x", .float32, .ofTokens [], ⟨false, false⟩, "", ""⟩ : Branch),
        ⟨"xPtr_", .float32, .ofTokens [], ⟨false, false⟩, "", ""⟩],
      ∃ line, (Branch.read line).value = .ok branch := by
    intro branch member
    rcases List.mem_pair.mp member with rfl | rfl
    · exact ⟨"x/F", by decide +kernel⟩
    · exact ⟨"xPtr_/F", by decide +kernel⟩
  have wellFormed : ∀ branch ∈
      [(⟨"x", .float32, .ofTokens [], ⟨false, false⟩, "", ""⟩ : Branch),
        ⟨"xPtr_", .float32, .ofTokens [], ⟨false, false⟩, "", ""⟩], branch.WellFormed := by
    intro branch member
    obtain ⟨line, accepted⟩ := read branch member
    exact Branch.wellFormed_of_read accepted
  exact ⟨read, by decide, by decide, (declaresNames_iff rfl wellFormed _).mpr rfl, by decide⟩

end Target

end ColumnCode

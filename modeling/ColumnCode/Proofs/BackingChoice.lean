import ColumnCode.Proofs.EmittedLines

/-!
# What depends on the backing of a storage

Only a storage holds its columns in arrays or in vectors.  For every other class
the choice has no effect on the code, although some kinds of code are written by
the choice alone: the class does not have the operations that need them.  For a
storage the choice has no effect on copies, resets and printed values, nor on
the runtime calls that pass no address.
-/

namespace ColumnCode

namespace Target

/-- The class with another choice of how a storage holds its columns. -/
def withBacking (target : Target) (backing : Backing) : Target :=
  { target with backing := backing }

section Elsewhere

variable {target : Target} (elsewhere : target.role ≠ .storage) (backing : Backing)

include elsewhere

theorem usesVectors_of_ne_storage : target.usesVectors = false := by
  simp [usesVectors, elsewhere]

theorem supportedBy_withBacking (operation : Operation) :
    operation.supportedBy target.role backing =
      operation.supportedBy target.role target.backing := by
  cases operation with
  | declarePointer =>
      have notStorage : (target.role == .storage) = false := beq_eq_false_iff_ne.mpr elsewhere
      simp only [Operation.supportedBy, notStorage, Bool.false_and]
  | _ => rfl

theorem declarator_withBacking (branch : Branch) :
    (target.withBacking backing).declarator branch = target.declarator branch := by
  rcases target with ⟨role, own, vocabulary⟩
  cases role with
  | storage => exact absurd rfl elsewhere
  | cached | entry | element => rfl

theorem address_withBacking (branch : Branch) :
    (target.withBacking backing).address branch = target.address branch := by
  have unchosen : (target.withBacking backing).usesVectors = false :=
    usesVectors_of_ne_storage elsewhere
  rw [address, address, unchosen, usesVectors_of_ne_storage elsewhere]
  rfl

theorem booking_withBacking (branch : Branch) :
    (target.withBacking backing).booking branch = target.booking branch := by
  have unchosen : (target.withBacking backing).usesVectors = false :=
    usesVectors_of_ne_storage elsewhere
  rw [booking, booking, unchosen, usesVectors_of_ne_storage elsewhere,
    address_withBacking elsewhere]
  rfl

/-- A class that is no storage has the same code for both choices. -/
theorem code_withBacking (operation : Operation) (branch : Branch) :
    (target.withBacking backing).code operation branch = target.code operation branch := by
  have treated : (target.withBacking backing).treats operation branch =
      target.treats operation branch := by
    unfold treats
    rw [← supportedBy_withBacking elsewhere backing operation]
    rfl
  rw [code, code, treated]
  cases operation with
  | declare => simp only [body, declaration, declarator_withBacking elsewhere]; rfl
  | bind => simp only [body, binding, address_withBacking elsewhere]; rfl
  | book => simp only [body, booking_withBacking elsewhere]
  | allocate | deallocate =>
      -- The lines differ, but no other class has room to allocate.
      simp [treats, Operation.supportedBy, elsewhere]
  | declarePointer | assign | reset | enable | release | dump => rfl

theorem codeAll_withBacking (operation : Operation) (branches : List Branch) :
    (target.withBacking backing).codeAll operation branches =
      target.codeAll operation branches :=
  List.flatMap_congr fun branch _ => code_withBacking elsewhere backing operation branch

theorem write_withBacking (operation : Operation) (branches : List Branch) (listing : Listing) :
    (target.withBacking backing).write operation branches listing =
      target.write operation branches listing := by
  rw [write, write, codeAll_withBacking elsewhere]
  rfl

theorem operations_withBacking :
    (target.withBacking backing).operations = target.operations :=
  List.filter_congr fun operation _ => supportedBy_withBacking elsewhere backing operation

theorem addOperation_withBacking (branches : List Branch) :
    (target.withBacking backing).addOperation branches = target.addOperation branches := by
  funext listing operation
  rw [addOperation, addOperation, write_withBacking elsewhere]
  rfl

theorem document_withBacking (branches : List Branch) :
    (target.withBacking backing).document branches = target.document branches := by
  rw [document, document, operations_withBacking elsewhere, addOperation_withBacking elsewhere]

end Elsewhere

/-- Some operations never look at the choice, not even in a storage. -/
theorem write_unbacked (target : Target) (backing : Backing) {operation : Operation}
    (member : operation ∈ [Operation.enable, .assign, .reset, .release, .dump])
    (branches : List Branch) (listing : Listing) :
    (target.withBacking backing).write operation branches listing =
      target.write operation branches listing := by
  simp only [List.mem_cons, List.not_mem_nil, or_false] at member
  rcases member with rfl | rfl | rfl | rfl | rfl <;> rfl

theorem initializers_storage (backing : Backing) (vocabulary : Vocabulary)
    (constructor : Constructor) (branches : List Branch) :
    (Target.mk .storage backing vocabulary).initializers constructor branches = [] :=
  List.filterMap_eq_nil_iff.mpr fun _ _ => rfl

theorem code_declarePointer_array (vocabulary : Vocabulary) (branch : Branch) :
    (Target.mk .storage .array vocabulary).code .declarePointer branch = [] :=
  rfl

/-- A storage holds every branch in some way. -/
theorem one_le_length_code (backing : Backing) (vocabulary : Vocabulary) {operation : Operation}
    (member : operation ∈ [Operation.declare, .allocate, .deallocate]) (branch : Branch) :
    1 ≤ ((Target.mk .storage backing vocabulary).code operation branch).length := by
  rw [length_code]
  simp only [List.mem_cons, List.not_mem_nil, or_false] at member
  rcases member with rfl | rfl | rfl <;> cases backing <;> exact Nat.le_of_ble_eq_true rfl

/-- The choice between arrays and vectors has no effect on the code, the
constructors and the document of a class that is no storage.  A storage has the
same code for both in the operations that do not look at the choice, and no
constructors.  Only vectors have pointers to declare, one for each branch, and
every branch is declared, allocated and freed by at least one line. -/
theorem backing_confined (vocabulary : Vocabulary) (branches : List Branch) :
    (∀ role, role ≠ .storage →
        (∀ operation listing,
          (Target.mk role .array vocabulary).write operation branches listing =
            (Target.mk role .vector vocabulary).write operation branches listing) ∧
        (∀ constructor,
          (Target.mk role .array vocabulary).initializers constructor branches =
            (Target.mk role .vector vocabulary).initializers constructor branches) ∧
        (Target.mk role .array vocabulary).document branches =
          (Target.mk role .vector vocabulary).document branches) ∧
      (∀ operation ∈ [Operation.enable, .assign, .reset, .release, .dump], ∀ listing,
        (Target.mk .storage .array vocabulary).write operation branches listing =
          (Target.mk .storage .vector vocabulary).write operation branches listing) ∧
      (∀ backing constructor,
        (Target.mk .storage backing vocabulary).initializers constructor branches = []) ∧
      ((∀ listing, ((Target.mk .storage .array vocabulary).write .declarePointer branches
          listing).value = listing) ∧
        ((Target.mk .storage .vector vocabulary).codeAll .declarePointer branches).length =
          branches.length) ∧
      ∀ operation ∈ [Operation.declare, .allocate, .deallocate], ∀ backing,
        (∀ branch ∈ branches,
          1 ≤ ((Target.mk .storage backing vocabulary).code operation branch).length) ∧
        ∀ listing,
          ((Target.mk .storage backing vocabulary).write operation branches listing).value.text =
            listing.text ++ String.join ((branches.flatMap
              ((Target.mk .storage backing vocabulary).code operation)).map (· ++ "\n")) := by
  refine ⟨fun role elsewhere => ⟨?_, fun constructor => rfl, ?_⟩, ?_, ?_, ⟨?_, ?_⟩, ?_⟩
  · intro operation listing
    exact @write_withBacking ⟨role, .vector, vocabulary⟩ elsewhere .array operation branches listing
  · exact @document_withBacking ⟨role, .vector, vocabulary⟩ elsewhere .array branches
  · intro operation member listing
    exact write_unbacked (.mk .storage .vector vocabulary) .array member branches listing
  · intro backing constructor
    exact initializers_storage backing vocabulary constructor branches
  · intro listing
    have nothing : (Target.mk .storage .array vocabulary).codeAll .declarePointer branches = [] :=
      List.flatMap_eq_nil_iff.mpr fun branch _ => code_declarePointer_array vocabulary branch
    rw [write, nothing]
    rfl
  · have one (branch : Branch) :
        ((Target.mk .storage .vector vocabulary).code .declarePointer branch).length = 1 := by
      rw [length_code]
      rfl
    simp [codeAll, List.length_flatMap, one]
  · intro operation member backing
    exact ⟨fun branch _ => one_le_length_code backing vocabulary member branch,
      text_write_append _ operation branches⟩

/-- An array column of an entry, booked alike with both choices, and the same
column of a storage, which is unbound alike and freed by one line or by two. -/
theorem backing_confined_array :
    Role.entry ≠ .storage ∧
      Operation.release ∈ [Operation.enable, .assign, .reset, .release, .dump] ∧
      Operation.deallocate ∈ [Operation.declare, .allocate, .deallocate] ∧
      ((Target.mk .entry .array .standard).write .book
          [⟨"pt", .float32, .ofTokens ["4"], ⟨false, true⟩, "", ""⟩] Listing.empty).value =
        ⟨"panda::utils::book(_tree, BranchName(\"pt\"), " ++
          "TString::Format(\"[4]\"), 'F', pt, _branches);\n"⟩ ∧
      ((Target.mk .storage .array .standard).write .release
          [⟨"pt", .float32, .ofTokens ["4"], ⟨false, true⟩, "", ""⟩] Listing.empty).value =
        ⟨"panda::utils::resetAddress(_tree, BranchName(_name, \"pt\"));\n"⟩ ∧
      ((Target.mk .storage .vector .standard).write .deallocate
          [⟨"pt", .float32, .ofTokens ["4"], ⟨false, true⟩, "", ""⟩] Listing.empty).value.text =
        "pt.resize(0);\n" ∧
      ((Target.mk .storage .array .standard).write .deallocate
          [⟨"pt", .float32, .ofTokens ["4"], ⟨false, true⟩, "", ""⟩] Listing.empty).value.text =
        "delete [] pt;\npt = 0;\n" := by
  obtain ⟨elsewhere, unbacked, -, -, holds⟩ := backing_confined .standard
    [⟨"pt", .float32, .ofTokens ["4"], ⟨false, true⟩, "", ""⟩]
  have booked := (elsewhere .entry (by decide)).1 .book Listing.empty
  have released := unbacked .release (by decide) Listing.empty
  have freed := fun backing => (holds .deallocate (by decide) backing).2 Listing.empty
  exact ⟨by decide, by decide, by decide, (congrArg Logged.value booked).trans (by decide +kernel),
    (congrArg Logged.value released).trans (by decide +kernel),
    (freed .vector).trans (by decide +kernel), (freed .array).trans (by decide +kernel)⟩

end Target

end ColumnCode

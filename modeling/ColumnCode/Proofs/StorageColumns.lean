import ColumnCode.Proofs.ColumnNames
import ColumnCode.Proofs.MemberNames
import ColumnCode.Proofs.StatementReading
import ColumnCode.Proofs.Transience

/-!
# How a storage holds its columns

A storage declares, allocates and frees each of its columns, transient or not.
All operations agree on how a column is held: the type that is allocated is the
one that the declared pointer points to, and the vector that is declared is the
one that is pointed to by an auxiliary member and booked by its type.
-/

namespace ColumnCode

open Definition (IsName stops_cons)
open Member (Reads)

namespace Target

/-- The lines are what an operation adds to any listing. -/
def Adds (target : Target) (operation : Operation) (branches : List Branch)
    (lines : List String) : Prop :=
  ∀ listing, (target.write operation branches listing).value = listing.addLines lines

/-- A storage of arrays declares, allocates and frees each column by a pointer
to values of the column's type. -/
structure HoldsArrays (vocabulary : Vocabulary) (branches : List Branch) : Prop where
  declares : (Target.mk .storage .array vocabulary).Adds .declare branches
    (branches.map fun branch => branch.memberType ++ "* " ++ branch.name ++ "\x7b0\x7d;" ++
      if branch.modifiers.transient then " // transient" else "")
  allocates : (Target.mk .storage .array vocabulary).Adds .allocate branches
    (branches.map fun branch =>
      branch.name ++ " = new " ++ branch.memberType ++ "[" ++ vocabulary.capacity ++ "];")
  frees : (Target.mk .storage .array vocabulary).Adds .deallocate branches
    (branches.flatMap fun branch => ["delete [] " ++ branch.name ++ ";", branch.name ++ " = 0;"])

/-- A storage of vectors declares, enlarges and empties a vector for each
column. -/
structure HoldsVectors (vocabulary : Vocabulary) (branches : List Branch) : Prop where
  declares : (Target.mk .storage .vector vocabulary).Adds .declare branches
    (branches.map fun branch => "std::vector<" ++ branch.memberType ++ "> " ++ branch.name ++ ";" ++
      if branch.modifiers.transient then " // transient" else "")
  allocates : (Target.mk .storage .vector vocabulary).Adds .allocate branches
    (branches.map fun branch => branch.name ++ ".resize(" ++ vocabulary.capacity ++ ");")
  frees : (Target.mk .storage .vector vocabulary).Adds .deallocate branches
    (branches.map fun branch => branch.name ++ ".resize(0);")

/-- A storage of vectors declares a pointer to each vector under the given name,
and binds and books a column that is not transient by the address of its
pointer. -/
structure SharesPointers (vocabulary : Vocabulary) (branches : List Branch)
    (pointer : Branch → String) : Prop where
  declares : (Target.mk .storage .vector vocabulary).Adds .declarePointer branches
    (branches.map fun branch => "std::vector<" ++ branch.memberType ++ ">* " ++ pointer branch ++
      "\x7b&" ++ branch.name ++ "\x7d;")
  binds : (Target.mk .storage .vector vocabulary).Adds .bind branches
    ((Branch.persistent branches).map fun branch =>
      vocabulary.runtimeFunction "setAddress" ++ "(" ++ vocabulary.tree ++ ", " ++
        vocabulary.columnName .storage branch.name ++ ", &" ++ pointer branch ++ ", " ++
        vocabulary.selection ++ ", " ++ vocabulary.enableFlag ++ ");")
  books : (Target.mk .storage .vector vocabulary).Adds .book branches
    ((Branch.persistent branches).map fun branch =>
      vocabulary.runtimeFunction "book" ++ "(" ++ vocabulary.tree ++ ", " ++
        vocabulary.columnName .storage branch.name ++ ", \"std::vector<" ++ branch.memberType ++
        ">\", &" ++ pointer branch ++ ", " ++ vocabulary.selection ++ ");")
  apart : ∀ first second : Branch, first.name ≠ second.name → pointer first ≠ pointer second

/-- The line allocates an array of values of the type under the name.  How many
values there are is left to the compiler. -/
def Allocates (line name type : String) : Prop :=
  IsName name.toList ∧ '[' ∉ type.toList ∧
    ∃ count, line = name ++ " = new " ++ type ++ "[" ++ count ++ "];"

/-- What is read back from the lines for one branch.  The pointer to the values
of an array points to the type that is allocated, the pointer to a vector points
to the vector that is declared, and the branch is bound by that pointer. -/
structure IsHeldAlike (vocabulary : Vocabulary) (pointer : Branch → String)
    (branch : Branch) : Prop where
  values : ∀ member,
    Reads ((Target.mk .storage .array vocabulary).declaration branch) member ↔
      member = ⟨branch.memberType ++ "*", branch.name, some "0"⟩
  allocated : ∀ line ∈ (Target.mk .storage .array vocabulary).code .allocate branch,
    ∀ name type, Allocates line name type ↔ name = branch.name ∧ type = branch.memberType
  vector : ∀ member,
    Reads ((Target.mk .storage .vector vocabulary).declaration branch) member ↔
      member = ⟨"std::vector<" ++ branch.memberType ++ ">", branch.name, none⟩
  vectorPointer : ∀ line ∈ (Target.mk .storage .vector vocabulary).code .declarePointer branch,
    ∀ member, Reads line member ↔
      member = ⟨"std::vector<" ++ branch.memberType ++ ">" ++ "*", pointer branch,
        some ("&" ++ branch.name)⟩
  bound : vocabulary.IsReadable →
    ∀ line ∈ (Target.mk .storage .vector vocabulary).code .bind branch,
      argument? line 2 = some ("&" ++ pointer branch)

section Reading

/-- The name ends at the first space and the type at the first bracket. -/
theorem Allocates.unique {line firstName firstType secondName secondType : String}
    (isFirst : Allocates line firstName firstType)
    (isSecond : Allocates line secondName secondType) :
    firstName = secondName ∧ firstType = secondType := by
  obtain ⟨isName, noBracket, count, rfl⟩ := isFirst
  obtain ⟨isOther, noOther, otherCount, same⟩ := isSecond
  have texts := congrArg String.toList same
  have written (name type count : String) :
      (name ++ " = new " ++ type ++ "[" ++ count ++ "];").toList =
        name.toList ++ ' ' :: ("= new ".toList ++
          (type.toList ++ '[' :: (count.toList ++ "];".toList))) := by
    simp
  rw [written, written] at texts
  obtain ⟨names, -, rests⟩ := Definition.IsName.append_cons_injective isName
    (by decide) isOther (by decide) texts
  have types := List.append_cancel_left rests
  have inside {type : String} (absent : '[' ∉ type.toList) :
      ∀ character ∈ type.toList, (character != '[') = true := by
    intro character member
    apply bne_iff_ne.mpr
    rintro rfl
    exact absent member
  have cut := Definition.run_injective (inside noBracket) (stops_cons.mpr (by decide))
    (inside noOther) (stops_cons.mpr (by decide)) types
  exact ⟨names, String.toList_inj.mp cut.1⟩

variable {vocabulary : Vocabulary} {branch : Branch} (wellFormed : branch.WellFormed)

include wellFormed

theorem bracket_not_mem_memberType : '[' ∉ branch.memberType.toList := by
  refine Shape.not_mem_wrap (by decide) (fun spelling member bracket => ?_) ?_
  · have isToken := wellFormed.wellFormed_definition.areTokens spelling member
    exact absurd (isToken.1 '[' bracket) (by decide)
  · cases branch.scalar <;> decide

/-- The line that declares a branch declares its member and nothing else. -/
theorem reads_declaration_iff (target : Target) (member : Member) :
    Reads (target.declaration branch) member ↔ member = target.member branch := by
  have reads := target.reads_declaration wellFormed
  constructor
  · exact fun others => others.unique reads
  · rintro rfl
    exact reads

theorem reads_pointerDeclaration_iff (member : Member) :
    Reads (pointerDeclaration branch) member ↔ member = pointerMember branch := by
  have reads := reads_pointerDeclaration wellFormed
  constructor
  · exact fun others => others.unique reads
  · rintro rfl
    exact reads

theorem allocates_iff (capacity name type : String) :
    Allocates (branch.name ++ " = new " ++ branch.memberType ++ "[" ++ capacity ++ "];") name type ↔
      name = branch.name ∧ type = branch.memberType := by
  have allocates : Allocates
      (branch.name ++ " = new " ++ branch.memberType ++ "[" ++ capacity ++ "];")
      branch.name branch.memberType :=
    ⟨wellFormed.isName, bracket_not_mem_memberType wellFormed, capacity, rfl⟩
  constructor
  · exact fun others => others.unique allocates
  · rintro ⟨rfl, rfl⟩
    exact allocates

theorem isWhole_pointer : IsWhole ("&" ++ pointerName branch) := by
  have isPointer := isName_pointerName wellFormed
  exact IsWhole.append (by decide) (Definition.IsName.isWhole isPointer)

/-- The address that a column is bound by is found as the third argument. -/
theorem argument?_binding (readable : vocabulary.IsReadable) :
    argument? ((Target.mk .storage .vector vocabulary).binding branch) 2 =
      some ("&" ++ pointerName branch) := by
  let target : Target := ⟨.storage, .vector, vocabulary⟩
  apply target.argument?_runtimeCall .bind readable wellFormed.isName rfl
  intro other member
  have isAddress : other = target.address branch := by simpa using member
  rw [isAddress]
  exact isWhole_pointer wellFormed

theorem isHeldAlike (vocabulary : Vocabulary) :
    IsHeldAlike vocabulary pointerName branch where
  values := reads_declaration_iff wellFormed (.mk .storage .array vocabulary)
  allocated := by
    intro line member
    obtain rfl := List.mem_singleton.mp member
    exact allocates_iff wellFormed vocabulary.capacity
  vector := reads_declaration_iff wellFormed (.mk .storage .vector vocabulary)
  vectorPointer := by
    intro line member
    obtain rfl := List.mem_singleton.mp member
    exact reads_pointerDeclaration_iff wellFormed
  bound := by
    intro readable line member
    obtain rfl := List.mem_singleton.mp (mem_body_of_mem_code member)
    exact argument?_binding wellFormed readable

end Reading

section Holding

variable (vocabulary : Vocabulary) (branches : List Branch)

theorem adds_codeAll (target : Target) (operation : Operation) (branches : List Branch) :
    target.Adds operation branches (target.codeAll operation branches) :=
  fun _ => rfl

/-- An operation that has one line for each branch adds these lines. -/
theorem adds_map {target : Target} {operation : Operation} {line : Branch → String}
    (code : ∀ branch, target.code operation branch = [line branch]) (branches : List Branch) :
    target.Adds operation branches (branches.map line) := by
  have lines : target.codeAll operation branches = branches.map line := by
    rw [codeAll, List.map_eq_flatMap]
    exact List.flatMap_congr fun branch _ => code branch
  rw [← lines]
  exact target.adds_codeAll operation branches

/-- An operation that calls the runtime adds one line for each branch that is not
transient. -/
theorem adds_map_persistent {target : Target} {operation : Operation} {line : Branch → String}
    (callsRuntime : operation.callsRuntime = true)
    (code : ∀ branch : Branch, branch.modifiers.transient = false →
      target.code operation branch = [line branch]) (branches : List Branch) :
    target.Adds operation branches ((Branch.persistent branches).map line) := by
  have lines : target.codeAll operation (Branch.persistent branches) =
      (Branch.persistent branches).map line := by
    rw [codeAll, List.map_eq_flatMap]
    refine List.flatMap_congr fun branch member => code branch ?_
    have isPersistent := (List.mem_filter.mp member).2
    simpa using isPersistent
  rw [← lines, codeAll_persistent target callsRuntime]
  exact target.adds_codeAll operation branches

theorem holdsArrays : HoldsArrays vocabulary branches where
  declares := by
    apply adds_map
    intro branch
    simp [code_declare, transienceNote, declaredComment, declarator]
  allocates := adds_map (fun _ => rfl) branches
  frees := fun _ => rfl

theorem holdsVectors : HoldsVectors vocabulary branches where
  declares := by
    apply adds_map
    intro branch
    have declarator : (Target.mk .storage .vector vocabulary).declarator branch =
        "std::vector<" ++ branch.memberType ++ "> " ++ branch.name ++ ";" := by
      rw [← String.toList_inj]
      simp [Target.declarator, vectorType]
    simp [code_declare, transienceNote, declaredComment, declarator]
  allocates := adds_map (fun _ => rfl) branches
  frees := adds_map (fun _ => rfl) branches

theorem sharesPointers : SharesPointers vocabulary branches pointerName where
  declares := by
    apply adds_map
    intro branch
    apply congrArg (fun line : String => [line])
    rw [← String.toList_inj]
    simp [pointerDeclaration, vectorType]
  binds := by
    apply adds_map_persistent rfl
    intro branch persistent
    rw [code_of_callsRuntime rfl persistent, runtimeCall_eq]
    apply congrArg (fun line : String => [line])
    rw [← String.toList_inj]
    simp [furtherArguments, address, usesVectors, Operation.calledFunction]
  books := by
    apply adds_map_persistent rfl
    intro branch persistent
    rw [code_of_callsRuntime rfl persistent, runtimeCall_eq]
    apply congrArg (fun line : String => [line])
    rw [← String.toList_inj]
    simp [furtherArguments, address, usesVectors, vectorType, Operation.calledFunction]
  apart := by
    intro first second differ same
    exact differ ((String.append_left_inj "Ptr_").mp same)

end Holding

/-- In a storage all columns are declared, allocated and freed, in order and
whether they are transient or not.  What is allocated for a column is what its
declaration points to, and in a storage of vectors the column is bound and
booked by a pointer to the vector that is declared, with one pointer for each
name. -/
theorem storage_columns_coherent (vocabulary : Vocabulary) (branches : List Branch) :
    HoldsArrays vocabulary branches ∧ HoldsVectors vocabulary branches ∧
      ∃ pointer : Branch → String, SharesPointers vocabulary branches pointer ∧
        ∀ branch, (∃ line, (Branch.read line).value = .ok branch) →
          IsHeldAlike vocabulary pointer branch := by
  refine ⟨holdsArrays vocabulary branches, holdsVectors vocabulary branches, pointerName,
    sharesPointers vocabulary branches, ?_⟩
  rintro branch ⟨line, accepted⟩
  exact isHeldAlike (Branch.wellFormed_of_read accepted) vocabulary

/-- A transient array with a comment and a scalar, whose lines go on behind a
listing. -/
theorem storage_columns_coherent_mixed :
    (Branch.read "v[2][n]/F/! // a").value =
        .ok ⟨"v", .float32, .ofTokens ["2", "n"], ⟨true, false⟩, "", " // a"⟩ ∧
      ((Target.mk .storage .vector .standard).write .declare
          [⟨"v", .float32, .ofTokens ["2", "n"], ⟨true, false⟩, "", " // a"⟩,
            ⟨"w", .bool, .ofTokens [], ⟨false, false⟩, "", ""⟩] Listing.empty).value =
        ⟨"std::vector<std::array<std::array<Float_t, n>, 2>> v; // transient\n" ++
          "std::vector<Bool_t> w;\n"⟩ ∧
      ((Target.mk .storage .array .standard).write .deallocate
          [⟨"v", .float32, .ofTokens ["2", "n"], ⟨true, false⟩, "", " // a"⟩,
            ⟨"w", .bool, .ofTokens [], ⟨false, false⟩, "", ""⟩] Listing.empty).value =
        ⟨"delete [] v;\nv = 0;\ndelete [] w;\nw = 0;\n"⟩ ∧
      ∀ name type, Allocates "v = new std::array<std::array<Float_t, n>, 2>[nmax_];" name type ↔
        name = "v" ∧ type = "std::array<std::array<Float_t, n>, 2>" := by
  have accepted : (Branch.read "v[2][n]/F/! // a").value =
      .ok ⟨"v", .float32, .ofTokens ["2", "n"], ⟨true, false⟩, "", " // a"⟩ := by
    decide +kernel
  obtain ⟨arrays, vectors, pointer, -, alike⟩ := storage_columns_coherent .standard
    [⟨"v", .float32, .ofTokens ["2", "n"], ⟨true, false⟩, "", " // a"⟩,
      ⟨"w", .bool, .ofTokens [], ⟨false, false⟩, "", ""⟩]
  have allocated := (alike _ ⟨_, accepted⟩).allocated
    "v = new std::array<std::array<Float_t, n>, 2>[nmax_];" (by decide +kernel)
  exact ⟨accepted, (vectors.declares _).trans (by decide +kernel),
    (arrays.frees _).trans (by decide +kernel), allocated⟩

end Target

end ColumnCode

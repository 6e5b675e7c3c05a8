import ColumnCode.Proofs.EmittedLines
import Mathlib.Data.List.Forall2

/-!
# What depends on transience

The operations that call the persistence runtime treat a list of branches as if
its transient branches were not there.  All other code is the same whether a
branch is transient or not, but for the note that stands between the declarator
and the comment of a transient branch.
-/

namespace ColumnCode

namespace Branch

def withTransience (branch : Branch) (transient : Bool) : Branch :=
  { branch with modifiers := { branch.modifiers with transient := transient } }

/-- Two branches that agree in everything but their transience. -/
def SameButTransience (first second : Branch) : Prop :=
  ∃ transient, second = first.withTransience transient

/-- The branches that are not transient. -/
def persistent (branches : List Branch) : List Branch :=
  branches.filter fun branch => !branch.modifiers.transient

end Branch

theorem title_placeSection (target : Target) (branches : List Branch) (place : Place) :
    (target.placeSection branches place).title = place.title := by
  cases place <;> rfl

namespace Target

/-- The sections of a document with a title. -/
def sectionsTitled (target : Target) (title : String) (branches : List Branch) : List Section :=
  (target.sections branches).filter fun part => part.title = title

/-- The note behind the declarator of a transient branch. -/
def transienceNote (transient : Bool) : String :=
  if transient then " // transient" else ""

/-- What a declaration takes over from the comment of the branch. -/
def declaredComment (target : Target) (branch : Branch) : String :=
  if target.role == .storage then "" else branch.comment

/-- Every place of a document has at most one section. -/
theorem sectionsTitled_place (target : Target) (branches : List Branch) (place : Place) :
    target.sectionsTitled place.title branches =
      if target.offers place then [target.placeSection branches place] else [] := by
  have titles : ((fun part : Section => decide (part.title = place.title)) ∘
      target.placeSection branches) = fun other => decide (other.title = place.title) := by
    funext other
    rw [Function.comp_apply, title_placeSection]
  rw [sectionsTitled, sections_eq, List.filter_map, titles, List.filter_comm, Place.filter_title]
  cases offered : target.offers place <;> simp [offered]

section Runtime

variable {operation : Operation}

theorem code_of_transient (target : Target) (callsRuntime : operation.callsRuntime = true)
    {branch : Branch} (transient : branch.modifiers.transient = true) :
    target.code operation branch = [] := by
  simp [code, treats, callsRuntime, transient]

theorem codeAll_persistent (target : Target) (callsRuntime : operation.callsRuntime = true)
    (branches : List Branch) :
    target.codeAll operation (Branch.persistent branches) =
      target.codeAll operation branches := by
  induction branches with
  | nil => rfl
  | cons branch branches ih =>
      simp only [codeAll, Branch.persistent, List.flatMap_cons] at ih ⊢
      cases transient : branch.modifiers.transient with
      | true => simp [transient, ih, code_of_transient target callsRuntime transient]
      | false => simp [transient, ih]

end Runtime

section OtherCode

variable (target : Target) {operation : Operation} (branch : Branch) (transient : Bool)

/-- Only the runtime operations and the declaration look at the flag. -/
theorem code_withTransience (offRuntime : operation.callsRuntime = false)
    (notDeclare : operation ≠ .declare) :
    target.code operation (branch.withTransience transient) = target.code operation branch := by
  cases operation with
  | declare => exact absurd rfl notDeclare
  | enable | bind | book | release => cases offRuntime
  | declarePointer | allocate | deallocate | assign | reset | dump => rfl

theorem initializer?_withTransience (constructor : Constructor) :
    target.initializer? constructor (branch.withTransience transient) =
      target.initializer? constructor branch :=
  rfl

theorem declarator_withTransience :
    target.declarator (branch.withTransience transient) = target.declarator branch :=
  rfl

theorem declaredComment_withTransience :
    target.declaredComment (branch.withTransience transient) = target.declaredComment branch :=
  rfl

theorem getLast?_declarator : (target.declarator branch).toList.getLast? = some ';' := by
  unfold declarator
  split <;> simp [List.getLast?_append, List.getLast?_cons]

theorem code_declare :
    target.code .declare branch =
      [target.declarator branch ++ transienceNote branch.modifiers.transient ++
        target.declaredComment branch] :=
  rfl

end OtherCode

theorem text_write_declare (target : Target) (branches : List Branch) (listing : Listing) :
    (target.write .declare branches listing).value.text =
      listing.text ++ String.join (branches.map fun branch =>
        target.declarator branch ++ transienceNote branch.modifiers.transient ++
          target.declaredComment branch ++ "\n") := by
  have lines : branches.flatMap (target.code .declare) = branches.map fun branch =>
      target.declarator branch ++ transienceNote branch.modifiers.transient ++
        target.declaredComment branch := by
    rw [List.map_eq_flatMap]
    exact List.flatMap_congr fun branch _ => target.code_declare branch
  rw [text_write_append, lines, List.map_map]
  rfl

section TwoRuns

variable {branches others : List Branch}

/-- What does not look at the flag sees the same in both lists. -/
theorem map_eq_of_sameButTransience {α : Type} {view : Branch → α}
    (same : List.Forall₂ Branch.SameButTransience branches others)
    (blind : ∀ branch transient, view (branch.withTransience transient) = view branch) :
    branches.map view = others.map view := by
  induction same with
  | nil => rfl
  | cons agrees _ ih =>
      obtain ⟨transient, rfl⟩ := agrees
      rw [List.map_cons, List.map_cons, ih, blind]

theorem codeAll_eq_of_sameButTransience (target : Target)
    (same : List.Forall₂ Branch.SameButTransience branches others) {operation : Operation}
    (offRuntime : operation.callsRuntime = false) (notDeclare : operation ≠ .declare) :
    target.codeAll operation branches = target.codeAll operation others := by
  have sameCode := map_eq_of_sameButTransience same fun branch transient =>
    code_withTransience target branch transient offRuntime notDeclare
  rw [codeAll, List.flatMap_def, sameCode, ← List.flatMap_def, codeAll]

theorem initializers_eq_of_sameButTransience (target : Target)
    (same : List.Forall₂ Branch.SameButTransience branches others) (constructor : Constructor) :
    target.initializers constructor branches = target.initializers constructor others := by
  have sameInitializers := map_eq_of_sameButTransience same fun branch transient =>
    initializer?_withTransience target branch transient constructor
  have viewed (listed : List Branch) : target.initializers constructor listed =
      (listed.map (target.initializer? constructor)).filterMap id := by
    rw [List.filterMap_map]
    rfl
  rw [viewed, viewed, sameInitializers]

end TwoRuns

/-- The runtime operations add the same code for a list of branches as for its
persistent branches, and have the same sections in a document, which is written
section by section.  Two lists that differ only in the transience of their
branches have the same code otherwise, and each pair of declarations is alike up
to the note behind the semicolon of the declarator. -/
theorem transience_confined (target : Target) {branches others : List Branch}
    (same : List.Forall₂ Branch.SameButTransience branches others) :
    (∀ operation : Operation, operation.callsRuntime = true →
        (∀ listing, (target.write operation branches listing).value =
          (target.write operation (Branch.persistent branches) listing).value) ∧
        target.sectionsTitled operation.label branches =
          target.sectionsTitled operation.label (Branch.persistent branches)) ∧
      (∀ operation : Operation, operation.callsRuntime = false → operation ≠ .declare →
        ∀ listing, (target.write operation branches listing).value =
          (target.write operation others listing).value) ∧
      (∀ constructor,
        target.initializers constructor branches = target.initializers constructor others) ∧
      (∀ (declared : List Branch) (listing : Listing),
        (target.write .declare declared listing).value.text =
          listing.text ++ String.join (declared.map fun branch =>
            target.declarator branch ++ transienceNote branch.modifiers.transient ++
              target.declaredComment branch ++ "\n")) ∧
      List.Forall₂ (fun first second =>
        target.declarator first = target.declarator second ∧
          (target.declarator first).toList.getLast? = some ';' ∧
          target.declaredComment first = target.declaredComment second) branches others ∧
      ∀ listed, (target.document listed).value =
        (target.sections listed).foldl (fun listing part => part.write listing)
          Listing.empty := by
  refine ⟨?_, ?_, initializers_eq_of_sameButTransience target same, text_write_declare target, ?_,
    target.value_document⟩
  · intro operation callsRuntime
    have sameCode := codeAll_persistent target callsRuntime branches
    refine ⟨fun listing => ?_, ?_⟩
    · simp [write, sameCode]
    · have titled := fun listed => sectionsTitled_place target listed (.ofOperation operation)
      simp only [Place.title] at titled
      rw [titled, titled, placeSection, placeSection, sameCode]
  · intro operation offRuntime notDeclare listing
    simp [write, codeAll_eq_of_sameButTransience target same offRuntime notDeclare]
  · refine same.imp ?_
    rintro first second ⟨transient, rfl⟩
    have sameDeclarator := target.declarator_withTransience first transient
    have sameComment := target.declaredComment_withTransience first transient
    exact ⟨sameDeclarator.symm, target.getLast?_declarator first, sameComment.symm⟩

/-- Two columns of an entry, only the first of them transient, and the same
columns with both flags turned. -/
theorem transience_confined_turned :
    List.Forall₂ Branch.SameButTransience
        [⟨"tmp", .int8, .ofTokens [], ⟨true, false⟩, "1", " // t"⟩,
          ⟨"pt", .float32, .ofTokens ["4"], ⟨false, true⟩, "", " // a"⟩]
        [⟨"tmp", .int8, .ofTokens [], ⟨false, false⟩, "1", " // t"⟩,
          ⟨"pt", .float32, .ofTokens ["4"], ⟨true, true⟩, "", " // a"⟩] ∧
      (({ role := .entry } : Target).write .release
          [⟨"tmp", .int8, .ofTokens [], ⟨true, false⟩, "1", " // t"⟩,
            ⟨"pt", .float32, .ofTokens ["4"], ⟨false, true⟩, "", " // a"⟩]
          Listing.empty).value =
        ⟨"panda::utils::resetAddress(_tree, BranchName(\"pt\"));\n"⟩ ∧
      (({ role := .entry } : Target).write .assign
          [⟨"tmp", .int8, .ofTokens [], ⟨true, false⟩, "1", " // t"⟩,
            ⟨"pt", .float32, .ofTokens ["4"], ⟨false, true⟩, "", " // a"⟩]
          Listing.empty).value =
        (({ role := .entry } : Target).write .assign
          [⟨"tmp", .int8, .ofTokens [], ⟨false, false⟩, "1", " // t"⟩,
            ⟨"pt", .float32, .ofTokens ["4"], ⟨true, true⟩, "", " // a"⟩]
          Listing.empty).value ∧
      (({ role := .entry } : Target).write .declare
          [⟨"tmp", .int8, .ofTokens [], ⟨true, false⟩, "1", " // t"⟩,
            ⟨"pt", .float32, .ofTokens ["4"], ⟨false, true⟩, "", " // a"⟩]
          Listing.empty).value.text =
        "Char_t tmp\x7b1\x7d; // transient // t\n" ++
          "mutable std::array<Float_t, 4> pt\x7b\x7d; // a\n" ∧
      (({ role := .entry } : Target).write .declare
          [⟨"tmp", .int8, .ofTokens [], ⟨false, false⟩, "1", " // t"⟩,
            ⟨"pt", .float32, .ofTokens ["4"], ⟨true, true⟩, "", " // a"⟩]
          Listing.empty).value.text =
        "Char_t tmp\x7b1\x7d; // t\n" ++
          "mutable std::array<Float_t, 4> pt\x7b\x7d; // transient // a\n" := by
  have same : List.Forall₂ Branch.SameButTransience
      [⟨"tmp", .int8, .ofTokens [], ⟨true, false⟩, "1", " // t"⟩,
        ⟨"pt", .float32, .ofTokens ["4"], ⟨false, true⟩, "", " // a"⟩]
      [⟨"tmp", .int8, .ofTokens [], ⟨false, false⟩, "1", " // t"⟩,
        ⟨"pt", .float32, .ofTokens ["4"], ⟨true, true⟩, "", " // a"⟩] :=
    .cons ⟨false, rfl⟩ (.cons ⟨true, rfl⟩ .nil)
  have confined := transience_confined { role := .entry } same
  exact ⟨same, ((confined.1 .release rfl).1 _).trans (by decide +kernel),
    confined.2.1 .assign rfl (by decide) _, (confined.2.2.2.1 _ _).trans (by decide +kernel),
    (confined.2.2.2.1 _ _).trans (by decide +kernel)⟩

end Target

end ColumnCode

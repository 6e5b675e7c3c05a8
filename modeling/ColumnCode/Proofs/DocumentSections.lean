import ColumnCode.Proofs.CodeLines
import ColumnCode.Target.Document

/-!
# Reading the sections of a document back

A document is its sections, written one behind the other.  It is cut into lines,
and the lines are cut into groups behind every empty line.  No line of code is
empty or broken, so each group is one section: its title, what one operation or
constructor contributes, and the empty line.
-/

namespace ColumnCode

/-- Lines of code under a title. -/
structure Section where
  title : String
  lines : List String
  deriving DecidableEq, Repr

/-- Add a section to a listing.  A section without lines adds nothing. -/
def Section.write (part : Section) (listing : Listing) : Listing :=
  listing.addSection part.title (Listing.empty.addLines part.lines)

namespace Target

def constructorSection (target : Target) (branches : List Branch) (constructor : Constructor) :
    Section :=
  ⟨constructor.label, target.initializers constructor branches⟩

/-- The sections that begin with an operation: its own, and after the
declarations those of the constructors. -/
def operationSections (target : Target) (branches : List Branch) (operation : Operation) :
    List Section :=
  ⟨operation.label, target.codeAll operation branches⟩ ::
    if operation = .declare then
      Constructor.all.map (target.constructorSection branches)
    else
      []

def sections (target : Target) (branches : List Branch) : List Section :=
  target.operations.flatMap (target.operationSections branches)

theorem value_addOperation (target : Target) (branches : List Branch) (listing : Listing)
    (operation : Operation) :
    (target.addOperation branches listing operation).value =
      (target.operationSections branches operation).foldl (fun listing part => part.write listing)
        listing := by
  rw [addOperation, operationSections, Logged.value_bind, List.foldl_cons]
  split
  next =>
    rw [List.foldl_map]
    rfl
  next => rfl

/-- A document is written section by section. -/
theorem value_document (target : Target) (branches : List Branch) :
    (target.document branches).value =
      (target.sections branches).foldl (fun listing part => part.write listing)
        Listing.empty := by
  simp only [document, Logged.value_foldlM, value_addOperation, sections, List.foldl_flatMap]

end Target

namespace Text

/-- The lines of a text, each with its newline. -/
def endedLines (text : String) : List String :=
  (cutLines '\n' text.toList).map String.ofList

/-- The lines of a text in groups.  An empty line ends a group. -/
def groups (text : String) : List (List String) :=
  cutLines "\n" (endedLines text)

theorem endedLines_append {lines : List String} (onLine : ∀ line ∈ lines, OnLine line)
    (rest : String) :
    endedLines (String.join (lines.map (· ++ "\n")) ++ rest) =
      lines.map (· ++ "\n") ++ endedLines rest := by
  induction lines with
  | nil => simp
  | cons line lines ih =>
      obtain ⟨first, others⟩ := List.forall_mem_cons.mp onLine
      have cut := cutLines_append first
        (String.join (lines.map (· ++ "\n")) ++ rest).toList
      have ended : String.ofList (line.toList ++ ['\n']) = line ++ "\n" := by
        simp
      have step : endedLines (line ++ "\n" ++ (String.join (lines.map (· ++ "\n")) ++ rest)) =
          (line ++ "\n") :: endedLines (String.join (lines.map (· ++ "\n")) ++ rest) := by
        have characters : (line ++ "\n" ++ (String.join (lines.map (· ++ "\n")) ++ rest)).toList =
            line.toList ++ '\n' :: (String.join (lines.map (· ++ "\n")) ++ rest).toList := by
          simp
        rw [endedLines, characters, cut, List.map_cons, ended]
        rfl
      rw [List.map_cons, String.join_cons, String.append_assoc, step, ih others]
      rfl

theorem endedLines_join {lines : List String} (onLine : ∀ line ∈ lines, OnLine line) :
    endedLines (String.join (lines.map (· ++ "\n"))) = lines.map (· ++ "\n") := by
  have ended := endedLines_append onLine ""
  rwa [String.append_empty, show endedLines "" = [] from rfl, List.append_nil] at ended

/-- The lines of a group are whole, and only the last one is empty. -/
def IsGroup (group : List String) : Prop :=
  ∃ body : List String, (∀ line ∈ body, line ≠ "" ∧ OnLine line) ∧
    group = body.map (· ++ "\n") ++ ["\n"]

theorem groups_join {parts : List (List String)} (areGroups : ∀ part ∈ parts, IsGroup part) :
    groups (String.join parts.flatten) = parts := by
  induction parts with
  | nil => rfl
  | cons part parts ih =>
      obtain ⟨⟨body, whole, rfl⟩, others⟩ := List.forall_mem_cons.mp areGroups
      have onLine : ∀ line ∈ body ++ [""], OnLine line := by
        intro line member
        rcases List.mem_append.mp member with inBody | isLast
        · exact (whole line inBody).2
        · rw [List.mem_singleton.mp isLast]
          decide
      have lines := endedLines_append onLine (String.join parts.flatten)
      have notEmpty : "\n" ∉ body.map (· ++ "\n") := by
        intro member
        obtain ⟨line, inBody, isEmpty⟩ := List.mem_map.mp member
        have characters := congrArg String.toList isEmpty
        exact (whole line inBody).1 (by simpa using characters)
      rw [List.map_append, List.map_singleton, String.empty_append] at lines
      rw [List.flatten_cons, String.join_append, groups, lines, List.append_assoc,
        List.singleton_append, cutLines_append notEmpty, ← groups, ih others]

theorem ended_of_groups {parts : List (List String)} (areGroups : ∀ part ∈ parts, IsGroup part) :
    String.join parts.flatten = "" ∨ ∃ before, String.join parts.flatten = before ++ "\n" := by
  rcases parts.eq_nil_or_concat with rfl | ⟨others, part, rfl⟩
  · exact .inl rfl
  · obtain ⟨body, -, rfl⟩ := areGroups part (by simp)
    refine .inr ⟨String.join others.flatten ++ String.join (body.map (· ++ "\n")), ?_⟩
    simp [String.append_assoc]

end Text

def heading (title : String) : String :=
  "// " ++ title ++ "\n"

/-- The group of a section with ended lines.  There is none without lines. -/
def group? (title : String) (lines : List String) : Option (List String) :=
  if lines = [] then none else some (heading title :: (lines ++ ["\n"]))

/-- The ended lines of the section with a title. -/
def linesUnder (title : String) (groups : List (List String)) : List String :=
  (groups.filter fun group => group.head? == some (heading title)).flatMap fun group =>
    group.tail.dropLast

/-- What can have a section of its own. -/
inductive Place where
  | ofOperation (operation : Operation)
  | ofConstructor (constructor : Constructor)
  deriving DecidableEq, Repr

namespace Place

/-- All places in the order of a document: the operations, with the
constructors behind the declarations. -/
def all : List Place :=
  Operation.all.flatMap fun operation =>
    .ofOperation operation ::
      if operation = .declare then Constructor.all.map .ofConstructor else []

def title : Place → String
  | .ofOperation operation => operation.label
  | .ofConstructor constructor => constructor.label

end Place

/-- The sections of two documents joined under their titles. -/
def joinGroups (first second : List (List String)) : List (List String) :=
  Place.all.filterMap fun place =>
    group? place.title (linesUnder place.title first ++ linesUnder place.title second)

namespace Target

/-- Whether the class has the operation of a place.  The place of a constructor
is left out only when it has no lines. -/
def offers (target : Target) : Place → Bool
  | .ofOperation operation => operation.supportedBy target.role target.backing
  | .ofConstructor _ => true

/-- The ended lines of a place: what writing the operation adds to an empty
listing, or the initializers of the constructor. -/
def placeLines (target : Target) (branches : List Branch) : Place → List String
  | .ofOperation operation =>
      Text.endedLines (target.write operation branches Listing.empty).value.text
  | .ofConstructor constructor => (target.initializers constructor branches).map (· ++ "\n")

/-- The groups that a document consists of. -/
def documentGroups (target : Target) (branches : List Branch) : List (List String) :=
  Place.all.filterMap fun place =>
    if target.offers place then group? place.title (target.placeLines branches place) else none

def placeSection (target : Target) (branches : List Branch) : Place → Section
  | .ofOperation operation => ⟨operation.label, target.codeAll operation branches⟩
  | .ofConstructor constructor => target.constructorSection branches constructor

theorem sections_eq (target : Target) (branches : List Branch) :
    target.sections branches =
      (Place.all.filter target.offers).map (target.placeSection branches) := by
  rcases target with ⟨role, backing, vocabulary⟩
  cases role <;> cases backing <;> rfl

theorem text_write (part : Section) (listing : Listing) :
    (part.write listing).text =
      listing.text ++
        String.join ((group? part.title (part.lines.map (· ++ "\n"))).elim [] id) := by
  unfold Section.write Listing.addSection group?
  cases part.lines with
  | nil => simp [Listing.addLines, Listing.isEmpty, Listing.empty]
  | cons line lines =>
      simp [heading, Listing.addLine, Listing.addText, Listing.text_addLines, Listing.isEmpty,
        Listing.empty, String.append_assoc]

theorem text_foldl_write (parts : List Section) (listing : Listing) :
    (parts.foldl (fun listing part => part.write listing) listing).text =
      listing.text ++ String.join
        (parts.filterMap fun part => group? part.title (part.lines.map (· ++ "\n"))).flatten := by
  induction parts generalizing listing with
  | nil => simp
  | cons part parts ih =>
      rw [List.foldl_cons, ih, text_write, String.append_assoc]
      cases grouped : group? part.title (part.lines.map (· ++ "\n")) with
      | none => simp [grouped]
      | some group => simp [grouped]

section OnLine

variable {target : Target} {branches : List Branch}

theorem line_of_mem_placeSection (words : target.vocabulary.OnLine)
    (parts : ∀ branch ∈ branches, branch.OnLine) (place : Place) :
    ∀ line ∈ (target.placeSection branches place).lines, line ≠ "" ∧ Text.OnLine line := by
  intro line member
  cases place with
  | ofOperation operation =>
      obtain ⟨branch, isBranch, inBody⟩ := exists_body_of_mem_codeAll member
      exact ⟨ne_empty_of_mem_body line inBody,
        onLine_of_mem_body words (parts branch isBranch) line inBody⟩
  | ofConstructor constructor =>
      obtain ⟨branch, isBranch, initialized⟩ := List.mem_filterMap.mp member
      exact onLine_initializer words (parts branch isBranch) initialized

theorem placeLines_eq (words : target.vocabulary.OnLine)
    (parts : ∀ branch ∈ branches, branch.OnLine) (place : Place) :
    target.placeLines branches place =
      (target.placeSection branches place).lines.map (· ++ "\n") := by
  cases place with
  | ofOperation operation =>
      have onLine := line_of_mem_placeSection words parts (.ofOperation operation)
      have text_eq : (target.write operation branches Listing.empty).value.text =
          String.join ((target.codeAll operation branches).map (· ++ "\n")) := by
        simp [write, Listing.text_addLines, Listing.empty]
      rw [placeLines, text_eq]
      exact Text.endedLines_join fun line member => (onLine line member).2
  | ofConstructor constructor => rfl

theorem text_document (words : target.vocabulary.OnLine)
    (parts : ∀ branch ∈ branches, branch.OnLine) :
    (target.document branches).value.text =
      String.join (target.documentGroups branches).flatten := by
  have written : (target.document branches).value.text = String.join
      ((target.sections branches).filterMap fun part =>
        group? part.title (part.lines.map (· ++ "\n"))).flatten := by
    simp [value_document, text_foldl_write, Listing.empty]
  rw [written, sections_eq, List.filterMap_map, List.filterMap_filter]
  unfold documentGroups
  refine congrArg (fun groups => String.join (List.flatten groups)) ?_
  refine List.filterMap_congr fun place _ => ?_
  rw [placeLines_eq words parts place]
  cases place <;> rfl

theorem isGroup_of_mem (words : target.vocabulary.OnLine)
    (parts : ∀ branch ∈ branches, branch.OnLine) :
    ∀ group ∈ target.documentGroups branches, Text.IsGroup group := by
  intro group member
  obtain ⟨place, -, grouped⟩ := List.mem_filterMap.mp member
  rw [placeLines_eq words parts place, group?] at grouped
  split at grouped
  next =>
    split at grouped
    next => simp at grouped
    next =>
      obtain rfl := Option.some.inj grouped
      refine ⟨("// " ++ place.title) :: (target.placeSection branches place).lines, ?_, by
        simp [heading]⟩
      have title : "// " ++ place.title ≠ "" ∧ Text.OnLine ("// " ++ place.title) := by
        rcases place with operation | constructor
        · cases operation <;> decide
        · cases constructor <;> decide
      exact List.forall_mem_cons.mpr ⟨title, line_of_mem_placeSection words parts place⟩
  next => simp at grouped

end OnLine

def offeredLines (target : Target) (branches : List Branch) (place : Place) : List String :=
  if target.offers place then target.placeLines branches place else []

theorem documentGroups_eq (target : Target) (branches : List Branch) :
    target.documentGroups branches =
      Place.all.filterMap fun place => group? place.title (target.offeredLines branches place) := by
  refine List.filterMap_congr fun place _ => ?_
  unfold offeredLines
  split <;> rfl

end Target

theorem heading_injective {first second : String} (same : heading first = heading second) :
    first = second := by
  have characters := congrArg String.toList same
  simpa [heading, String.toList_inj] using characters

theorem linesUnder_append (title : String) (first second : List (List String)) :
    linesUnder title (first ++ second) = linesUnder title first ++ linesUnder title second := by
  simp [linesUnder]

theorem linesUnder_group? (title other : String) (lines : List String) :
    linesUnder title (group? other lines).toList = if other = title then lines else [] := by
  unfold group?
  split
  next absent => simp [linesUnder, absent]
  next =>
    by_cases same : other = title
    · simp [linesUnder, same]
    · have different : heading other ≠ heading title := fun equal => same (heading_injective equal)
      simp [linesUnder, same, different]

theorem linesUnder_filterMap (title : String) (places : List Place) (lines : Place → List String) :
    linesUnder title (places.filterMap fun place => group? place.title (lines place)) =
      (places.filter fun place => place.title = title).flatMap lines := by
  induction places with
  | nil => rfl
  | cons place places ih =>
      have split_eq : (place :: places).filterMap (fun place => group? place.title (lines place)) =
          (group? place.title (lines place)).toList ++
            places.filterMap fun place => group? place.title (lines place) := by
        cases grouped : group? place.title (lines place) <;> simp [grouped]
      rw [split_eq, linesUnder_append, linesUnder_group?, ih]
      by_cases same : place.title = title <;> simp [same]

theorem Place.filter_title (place : Place) :
    (Place.all.filter fun other => other.title = place.title) = [place] := by
  rcases place with operation | constructor
  · cases operation <;> decide
  · cases constructor <;> decide

namespace Target

theorem linesUnder_documentGroups (target : Target) (branches : List Branch) (place : Place) :
    linesUnder place.title (target.documentGroups branches) =
      target.offeredLines branches place := by
  rw [documentGroups_eq, linesUnder_filterMap, Place.filter_title, List.flatMap_singleton]

section Joining

variable {target : Target} {first second : List Branch}

theorem offeredLines_append (words : target.vocabulary.OnLine)
    (firstParts : ∀ branch ∈ first, branch.OnLine) (secondParts : ∀ branch ∈ second, branch.OnLine)
    (place : Place) :
    target.offeredLines (first ++ second) place =
      target.offeredLines first place ++ target.offeredLines second place := by
  have parts : ∀ branch ∈ first ++ second, branch.OnLine := by
    intro branch member
    exact (List.mem_append.mp member).elim (firstParts branch) (secondParts branch)
  unfold offeredLines
  split
  next =>
    rw [placeLines_eq words parts, placeLines_eq words firstParts, placeLines_eq words secondParts,
      ← List.map_append]
    cases place with
    | ofOperation operation => simp [placeSection, codeAll]
    | ofConstructor constructor => simp [placeSection, constructorSection, initializers]
  next => rfl

theorem joinGroups_documentGroups (words : target.vocabulary.OnLine)
    (firstParts : ∀ branch ∈ first, branch.OnLine)
    (secondParts : ∀ branch ∈ second, branch.OnLine) :
    joinGroups (target.documentGroups first) (target.documentGroups second) =
      target.documentGroups (first ++ second) := by
  rw [documentGroups_eq target (first ++ second)]
  refine List.filterMap_congr fun place _ => ?_
  rw [linesUnder_documentGroups, linesUnder_documentGroups,
    offeredLines_append words firstParts secondParts]

end Joining

theorem groups_text_document {target : Target} {branches : List Branch}
    (words : target.vocabulary.OnLine) (parts : ∀ branch ∈ branches, branch.OnLine) :
    Text.groups (target.document branches).value.text = target.documentGroups branches := by
  rw [text_document words parts, Text.groups_join (isGroup_of_mem words parts)]

theorem onLine_of_read {branches : List Branch}
    (read : ∀ branch ∈ branches, ∃ line, (Branch.read line).value = .ok branch) :
    ∀ branch ∈ branches, branch.OnLine := by
  intro branch member
  obtain ⟨line, accepted⟩ := read branch member
  exact (Branch.wellFormed_of_read accepted).onLine

/-- A document consists of the sections of its class that have lines, and they
are read back from its text.  The sections for more branches are those for the
first and for the others, joined title by title. -/
theorem document_sections_decodable (target : Target) (words : target.vocabulary.OnLine)
    (branches more : List Branch)
    (read : ∀ branch ∈ branches, ∃ line, (Branch.read line).value = .ok branch)
    (readMore : ∀ branch ∈ more, ∃ line, (Branch.read line).value = .ok branch) :
    ((target.document branches).value.text = "" ∨
        ∃ before, (target.document branches).value.text = before ++ "\n") ∧
      Text.groups (target.document branches).value.text = target.documentGroups branches ∧
      String.join (target.documentGroups branches).flatten =
        (target.document branches).value.text ∧
      Text.groups (target.document (branches ++ more)).value.text =
        joinGroups (Text.groups (target.document branches).value.text)
          (Text.groups (target.document more).value.text) := by
  have parts := onLine_of_read read
  have moreParts := onLine_of_read readMore
  have allParts : ∀ branch ∈ branches ++ more, branch.OnLine := by
    intro branch member
    exact (List.mem_append.mp member).elim (parts branch) (moreParts branch)
  refine ⟨?_, groups_text_document words parts, (text_document words parts).symm, ?_⟩
  · rw [text_document words parts]
    exact Text.ended_of_groups (isGroup_of_mem words parts)
  · rw [groups_text_document words allParts, groups_text_document words parts,
      groups_text_document words moreParts, joinGroups_documentGroups words parts moreParts]

/-- The sections of a cached record with one transient column, and those with a
second column joined to them. -/
theorem document_sections_decodable_cached :
    Vocabulary.standard.OnLine ∧
      (∀ branch ∈ [(⟨"tmp", .int8, .ofTokens [], ⟨true, false⟩, "1", ""⟩ : Branch)],
        ∃ line, (Branch.read line).value = .ok branch) ∧
      (∀ branch ∈ [(⟨"pt", .float32, .ofTokens ["4"], ⟨false, true⟩, "", " // a"⟩ : Branch)],
        ∃ line, (Branch.read line).value = .ok branch) ∧
      Text.groups (({ role := .cached } : Target).document
          [⟨"tmp", .int8, .ofTokens [], ⟨true, false⟩, "1", ""⟩]).value.text =
        [["// declare\n", "Char_t tmp\x7b1\x7d; // transient\n", "\n"],
          ["// copy-init\n", "tmp(_src.tmp)\n", "\n"],
          ["// assign\n", "tmp = _src.tmp;\n", "\n"],
          ["// initialize\n", "tmp = 1;\n", "\n"],
          ["// dump\n",
            "_out << indentation << \"tmp = \" << static_cast<const Int_t>(tmp) << std::endl;\n",
            "\n"]] ∧
      Text.groups (({ role := .cached } : Target).document
          ([⟨"tmp", .int8, .ofTokens [], ⟨true, false⟩, "1", ""⟩] ++
            [⟨"pt", .float32, .ofTokens ["4"], ⟨false, true⟩, "", " // a"⟩])).value.text =
        joinGroups
          (Text.groups (({ role := .cached } : Target).document
            [⟨"tmp", .int8, .ofTokens [], ⟨true, false⟩, "1", ""⟩]).value.text)
          (Text.groups (({ role := .cached } : Target).document
            [⟨"pt", .float32, .ofTokens ["4"], ⟨false, true⟩, "", " // a"⟩]).value.text) := by
  have read : ∀ branch ∈ [(⟨"tmp", .int8, .ofTokens [], ⟨true, false⟩, "1", ""⟩ : Branch)],
      ∃ line, (Branch.read line).value = .ok branch := by
    intro branch member
    obtain rfl := List.mem_singleton.mp member
    exact ⟨"tmp/B/! = 1", by decide +kernel⟩
  have readMore : ∀ branch ∈
      [(⟨"pt", .float32, .ofTokens ["4"], ⟨false, true⟩, "", " // a"⟩ : Branch)],
      ∃ line, (Branch.read line).value = .ok branch := by
    intro branch member
    obtain rfl := List.mem_singleton.mp member
    exact ⟨"pt[4]/F/m // a", by decide +kernel⟩
  have decodable := document_sections_decodable { role := .cached } Vocabulary.onLine_standard
    _ _ read readMore
  exact ⟨Vocabulary.onLine_standard, read, readMore, decodable.2.1.trans (by decide +kernel),
    decodable.2.2.2⟩

end Target

end ColumnCode

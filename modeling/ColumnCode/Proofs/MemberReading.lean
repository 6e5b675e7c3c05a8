import ColumnCode.Proofs.CodeLines

/-!
# Reading member declarations

A class declares a member by its type, its name behind a space, possibly a text
in braces, and a semicolon.  A remark can stand behind it.  The dimensions in a
type may hold almost any character, so a declaration is read from its end: the
remark begins at the first slash, and before the semicolon come the braces and
the name.  Whatever is left is the type.
-/

namespace ColumnCode

open Definition (IsName Stops run_injective stops_cons stops_nil continuesName)

/-- A member of a class, as the parts of its declaration. -/
@[ext]
structure Member where
  type : String
  name : String
  braced? : Option String
  deriving DecidableEq, Repr

namespace Member

/-- What stands behind the name. -/
def ending : Option String → String
  | none => ";"
  | some braced => "\x7b" ++ braced ++ "\x7d;"

/-- The declaration up to its semicolon. -/
def render (member : Member) : String :=
  member.type ++ " " ++ member.name ++ ending member.braced?

/-- The conditions under which the parts are found again: a slash begins a
remark, and a brace opens the text in braces. -/
structure IsWritten (member : Member) : Prop where
  type : '/' ∉ member.type.toList
  isName : IsName member.name.toList
  braced : ∀ braced ∈ member.braced?, '/' ∉ braced.toList ∧ '\x7b' ∉ braced.toList

/-- What may stand behind a declaration. -/
def IsRemark (text : String) : Prop :=
  text = "" ∨ ∃ body, text = " //" ++ body

/-- The line declares the member. -/
def Reads (line : String) (member : Member) : Prop :=
  member.IsWritten ∧ ∃ remark, IsRemark remark ∧ line = member.render ++ remark

theorem IsRemark.exists_slash {remark : String} (isRemark : IsRemark remark) :
    ∃ space rest : List Char, remark.toList = space ++ rest ∧
      (∀ character ∈ space, character = ' ') ∧ Stops (· != '/') rest := by
  rcases isRemark with rfl | ⟨body, rfl⟩
  · exact ⟨[], [], rfl, by simp, stops_nil⟩
  · exact ⟨[' '], '/' :: '/' :: body.toList, by simp, by simp, stops_cons.mpr (by decide)⟩

/-- The declaration from its end to its beginning. -/
theorem reverse_render (member : Member) :
    member.render.toList.reverse =
      ';' :: ((member.braced?.elim [] fun braced => '\x7d' :: (braced.toList.reverse ++ ['\x7b'])) ++
        (member.name.toList.reverse ++ ' ' :: member.type.toList.reverse)) := by
  cases braced : member.braced? with
  | none => simp [render, ending, braced]
  | some braced => simp [render, ending, braced]

theorem IsWritten.slash_not_mem_render {member : Member} (isWritten : member.IsWritten) :
    '/' ∉ member.render.toList := by
  have name : '/' ∉ member.name.toList := isWritten.isName.not_mem (by decide)
  have ending : '/' ∉ (ending member.braced?).toList := by
    cases braced : member.braced? with
    | none => simp [Member.ending]
    | some text => simp [Member.ending, (isWritten.braced text braced).1]
  simp [render, isWritten.type, name, ending]

/-- The remark begins behind the last semicolon before the first slash. -/
theorem render_eq_of_append_remark {first second : Member} (isFirst : first.IsWritten)
    (isSecond : second.IsWritten) {firstRemark secondRemark : String}
    (remarksFirst : IsRemark firstRemark) (remarksSecond : IsRemark secondRemark)
    (same : first.render ++ firstRemark = second.render ++ secondRemark) :
    first.render.toList.reverse = second.render.toList.reverse := by
  obtain ⟨firstSpace, firstRest, firstText, firstBlank, firstStops⟩ := remarksFirst.exists_slash
  obtain ⟨secondSpace, secondRest, secondText, secondBlank, secondStops⟩ :=
    remarksSecond.exists_slash
  have noSlash {member : Member} (isWritten : member.IsWritten) {space : List Char}
      (blank : ∀ character ∈ space, character = ' ') :
      ∀ character ∈ member.render.toList ++ space, (character != '/') = true := by
    intro character isMember
    refine bne_iff_ne.mpr ?_
    rintro rfl
    rcases List.mem_append.mp isMember with inCode | inSpace
    · exact isWritten.slash_not_mem_render inCode
    · exact absurd (blank '/' inSpace) (by decide)
  have noSemicolon {space : List Char} (blank : ∀ character ∈ space, character = ' ') :
      ∀ character ∈ space.reverse, (character != ';') = true := by
    intro character inSpace
    rw [blank character (List.mem_reverse.mp inSpace)]
    decide
  have endsCode (member : Member) : Stops (· != ';') member.render.toList.reverse := by
    rw [reverse_render]
    exact stops_cons.mpr (by decide)
  have texts := congrArg String.toList same
  rw [String.toList_append, String.toList_append, firstText, secondText, ← List.append_assoc,
    ← List.append_assoc] at texts
  have codes := (run_injective (noSlash isFirst firstBlank) firstStops
    (noSlash isSecond secondBlank) secondStops texts).1
  have reversed := congrArg List.reverse codes
  rw [List.reverse_append, List.reverse_append] at reversed
  exact (run_injective (noSemicolon firstBlank) (endsCode first) (noSemicolon secondBlank)
    (endsCode second) reversed).2

/-- The name is the run of its characters in front of what ends the
declaration. -/
theorem IsName.reversed_injective {first second : String} {firstType secondType : List Char}
    (isFirst : IsName first.toList) (isSecond : IsName second.toList)
    (same : first.toList.reverse ++ ' ' :: firstType = second.toList.reverse ++ ' ' :: secondType) :
    first = second ∧ firstType = secondType := by
  have inside {name : String} (isName : IsName name.toList) :
      ∀ character ∈ name.toList.reverse, continuesName character = true :=
    fun character member => isName.inside character (List.mem_reverse.mp member)
  obtain ⟨names, types⟩ := run_injective (inside isFirst) (stops_cons.mpr (by decide))
    (inside isSecond) (stops_cons.mpr (by decide)) same
  exact ⟨String.toList_inj.mp (List.reverse_injective names), (List.cons.inj types).2⟩

/-- A name does not end with a brace. -/
theorem IsName.reversed_ne_brace {name : String} (isName : IsName name.toList)
    (type rest : List Char) : name.toList.reverse ++ ' ' :: type ≠ '\x7d' :: rest := by
  intro same
  cases reversed : name.toList.reverse with
  | nil => simp [reversed] at same
  | cons last others =>
      have isLast : last = '\x7d' := by
        rw [reversed] at same
        exact (List.cons.inj same).1
      have member : '\x7d' ∈ name.toList := by
        rw [← List.mem_reverse, reversed, isLast]
        exact List.mem_cons_self
      exact isName.not_mem (by decide) member

theorem reverse_render_injective {first second : Member} (isFirst : first.IsWritten)
    (isSecond : second.IsWritten)
    (same : first.render.toList.reverse = second.render.toList.reverse) : first = second := by
  rw [reverse_render, reverse_render] at same
  have endings := (List.cons.inj same).2
  have parts {firstType secondType : List Char}
      (same : first.name.toList.reverse ++ ' ' :: firstType =
        second.name.toList.reverse ++ ' ' :: secondType) :=
    IsName.reversed_injective isFirst.isName isSecond.isName same
  cases firstBraced : first.braced? with
  | none =>
      cases secondBraced : second.braced? with
      | none =>
          simp only [firstBraced, secondBraced, Option.elim_none, List.nil_append] at endings
          obtain ⟨names, types⟩ := parts endings
          exact Member.ext (String.toList_inj.mp (List.reverse_injective types)) names
            (firstBraced.trans secondBraced.symm)
      | some braced =>
          simp only [firstBraced, secondBraced, Option.elim_none, Option.elim_some,
            List.nil_append, List.cons_append] at endings
          exact absurd endings (IsName.reversed_ne_brace isFirst.isName _ _)
  | some braced =>
      cases secondBraced : second.braced? with
      | none =>
          simp only [firstBraced, secondBraced, Option.elim_none, Option.elim_some,
            List.nil_append, List.cons_append] at endings
          exact absurd endings.symm (IsName.reversed_ne_brace isSecond.isName _ _)
      | some otherBraced =>
          simp only [firstBraced, secondBraced, Option.elim_some, List.cons_append,
            List.append_assoc, List.cons.injEq, true_and] at endings
          have noBrace {text : String} (absent : '\x7b' ∉ text.toList) :
              ∀ character ∈ text.toList.reverse, (character != '\x7b') = true := by
            intro character member
            refine bne_iff_ne.mpr ?_
            rintro rfl
            exact absent (List.mem_reverse.mp member)
          obtain ⟨texts, rests⟩ := run_injective
            (noBrace (isFirst.braced braced firstBraced).2) (stops_cons.mpr (by decide))
            (noBrace (isSecond.braced otherBraced secondBraced).2) (stops_cons.mpr (by decide))
            endings
          obtain ⟨names, types⟩ := parts (List.cons.inj rests).2
          have sameBraced : braced = otherBraced :=
            String.toList_inj.mp (List.reverse_injective texts)
          exact Member.ext (String.toList_inj.mp (List.reverse_injective types)) names
            (by rw [firstBraced, secondBraced, sameBraced])

/-- A line declares one member at most. -/
theorem Reads.unique {line : String} {first second : Member} (readsFirst : Reads line first)
    (readsSecond : Reads line second) : first = second := by
  obtain ⟨isFirst, firstRemark, remarksFirst, firstText⟩ := readsFirst
  obtain ⟨isSecond, secondRemark, remarksSecond, secondText⟩ := readsSecond
  exact reverse_render_injective isFirst isSecond
    (render_eq_of_append_remark isFirst isSecond remarksFirst remarksSecond
      (firstText.symm.trans secondText))

end Member

theorem Scalar.slash_not_mem_typeName (scalar : Scalar) : '/' ∉ scalar.typeName.toList := by
  cases scalar <;> decide

namespace Branch.WellFormed

variable {branch : Branch}

theorem slash_not_mem_memberType (wellFormed : branch.WellFormed) :
    '/' ∉ branch.memberType.toList := by
  refine Shape.not_mem_wrap (by decide) (fun spelling member slash => ?_)
    branch.scalar.slash_not_mem_typeName
  have isToken := wellFormed.wellFormed_definition.areTokens spelling member
  exact absurd (isToken.1 '/' slash) (by decide)

theorem not_mem_initializer (wellFormed : branch.WellFormed) {character : Char}
    (outside : Definition.inLiteral character = false) :
    character ∉ branch.initializer.toList := by
  rcases wellFormed.initializer with absent | isLiteral
  · simp [absent]
  · exact isLiteral.not_mem outside

end Branch.WellFormed

namespace Target

open Member (IsRemark Reads)

/-- The member that a class has for a branch. -/
def member (target : Target) (branch : Branch) : Member where
  type :=
    match target.role, target.backing with
    | .storage, .vector => vectorType branch
    | .storage, .array => branch.memberType ++ "*"
    | .cached, _ | .entry, _ =>
        (if branch.modifiers.mutable then "mutable " else "") ++ branch.memberType
    | .element, _ => branch.memberType ++ "&"
  name := branch.name
  braced? :=
    match target.role, target.backing with
    | .storage, .array => some "0"
    | .cached, _ | .entry, _ => some branch.initializer
    | _, _ => none

/-- The auxiliary member of a storage that holds its columns in vectors. -/
def pointerMember (branch : Branch) : Member where
  type := vectorType branch ++ "*"
  name := pointerName branch
  braced? := some ("&" ++ branch.name)

variable {branch : Branch}

theorem declarator_eq_render (target : Target) (branch : Branch) :
    target.declarator branch = (target.member branch).render := by
  rcases target with ⟨role, backing, vocabulary⟩
  cases role <;> cases backing <;>
    simp [declarator, member, Member.render, Member.ending, String.append_assoc]

theorem isRemark_declaration (target : Target) (wellFormed : branch.WellFormed) :
    IsRemark ((if branch.modifiers.transient then " // transient" else "") ++
      if target.role == .storage then "" else branch.comment) := by
  split
  next => exact .inr ⟨" transient" ++ _, rfl⟩
  next =>
    rw [String.empty_append]
    split
    next => exact .inl rfl
    next =>
      rcases wellFormed.comment with absent | ⟨body, -, -, present⟩
      · exact .inl absent
      · exact .inr ⟨body, present⟩

theorem isName_pointerName (wellFormed : branch.WellFormed) :
    IsName (pointerName branch).toList := by
  have isName := wellFormed.isName
  rw [pointerName, String.toList_append]
  cases characters : branch.name.toList with
  | nil => exact absurd isName (by simp [characters, IsName])
  | cons first others =>
      rw [characters] at isName
      refine ⟨isName.1, fun character member => ?_⟩
      rcases List.mem_append.mp member with inName | inSuffix
      · exact isName.2 character inName
      · exact (List.all_eq_true.mp (by decide : "Ptr_".toList.all continuesName = true)) character
          inSuffix

theorem isWritten_member (target : Target) (wellFormed : branch.WellFormed) :
    (target.member branch).IsWritten := by
  have memberType := wellFormed.slash_not_mem_memberType
  have literal : '/' ∉ branch.initializer.toList ∧ '\x7b' ∉ branch.initializer.toList :=
    ⟨wellFormed.not_mem_initializer (by decide), wellFormed.not_mem_initializer (by decide)⟩
  refine ⟨?_, wellFormed.isName, ?_⟩
  · rcases target with ⟨role, backing, vocabulary⟩
    cases role <;> cases backing <;> simp [member, vectorType, memberType] <;> split <;> simp
  · rcases target with ⟨role, backing, vocabulary⟩
    cases role <;> cases backing <;> simp [member, literal]

/-- The line that declares a branch declares its member. -/
theorem reads_declaration (target : Target) (wellFormed : branch.WellFormed) :
    Reads (target.declaration branch) (target.member branch) := by
  refine ⟨target.isWritten_member wellFormed, _, target.isRemark_declaration wellFormed, ?_⟩
  rw [declaration, declarator_eq_render, String.append_assoc]

theorem reads_pointerDeclaration (wellFormed : branch.WellFormed) :
    Reads (pointerDeclaration branch) (pointerMember branch) := by
  have memberType := wellFormed.slash_not_mem_memberType
  have name {character : Char} (outside : continuesName character = false) :
      character ∉ branch.name.toList := wellFormed.isName.not_mem outside
  refine ⟨⟨?_, isName_pointerName wellFormed, ?_⟩, "", .inl rfl, ?_⟩
  · simp [pointerMember, vectorType, memberType]
  · rintro _ ⟨⟩
    simp [name (show continuesName '/' = false by decide),
      name (show continuesName '\x7b' = false by decide)]
  · rw [← String.toList_inj]
    simp [pointerDeclaration, pointerMember, Member.render, Member.ending]

end Target

end ColumnCode

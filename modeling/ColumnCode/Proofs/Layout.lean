import ColumnCode.Proofs.Lines
import ColumnCode.Proofs.Readers

/-!
# The grammar of definition lines

A layout is a definition line as it stands: all parts that are written, with
the spaces between them.  Reading recovers the definition from any layout, it
accepts nothing but layouts, and no two layouts are written alike.
-/

namespace ColumnCode

namespace Definition

/-- An equals sign and a literal, with the spaces before both. -/
@[ext]
structure Assignment where
  before : List Char
  after : List Char
  literal : List Char
  spacesBefore : IsRun isSpace before
  spacesAfter : IsRun isSpace after
  isLiteral : IsRun inLiteral literal

/-- Two slashes and what follows them on the line, with the spaces before. -/
@[ext]
structure Remark where
  before : List Char
  body : List Char
  spacesBefore : IsRun isSpace before
  nonempty : body ≠ []
  onLine : '\n' ∉ body

/-- The written parts of a definition line.  The last three may be absent. -/
@[ext]
structure Layout where
  name : List Char
  tokens : List (List Char)
  code : List Char
  modifiers? : Option (List Char)
  assignment? : Option Assignment
  remark? : Option Remark
  isName : IsName name
  areTokens : ∀ token ∈ tokens, IsToken token
  isCode : IsRun inCode code
  areModifiers : ∀ modifiers ∈ modifiers?, IsRun inCode modifiers

def Assignment.text (assignment : Assignment) : List Char :=
  assignment.before ++ '=' :: (assignment.after ++ assignment.literal)

def Remark.text (remark : Remark) : List Char :=
  remark.before ++ '/' :: '/' :: remark.body

/-- The comment of a remark keeps one of the spaces. -/
def Remark.comment (remark : Remark) : List Char :=
  ' ' :: '/' :: '/' :: remark.body

namespace Layout

def tail (assignment? : Option Assignment) (remark? : Option Remark) : List Char :=
  assignment?.elim [] Assignment.text ++ remark?.elim [] Remark.text

def text (layout : Layout) : List Char :=
  layout.name ++ (layout.tokens.flatMap bracketed ++ '/' :: (layout.code ++
    (layout.modifiers?.elim [] ('/' :: ·) ++ tail layout.assignment? layout.remark?)))

/-- The definition that the line writes.  An absent part is empty. -/
def definition (layout : Layout) : Definition where
  name := String.ofList layout.name
  dimensions := layout.tokens.map String.ofList
  code := String.ofList layout.code
  modifiers := String.ofList (layout.modifiers?.elim [] id)
  initializer := String.ofList (layout.assignment?.elim [] Assignment.literal)
  comment := String.ofList (layout.remark?.elim [] Remark.comment)

/-- The text is at its end or goes on with a space. -/
def Pauses (text : List Char) : Prop :=
  ∀ character ∈ text.head?, character = ' '

theorem pauses_of_isRun {spaces rest : List Char} (isRun : IsRun isSpace spaces) :
    Pauses (spaces ++ rest) := by
  obtain ⟨nonempty, inside⟩ := isRun
  obtain ⟨head, others, rfl⟩ := List.exists_cons_of_ne_nil nonempty
  intro character member
  obtain rfl : head = character := by simpa using member
  simpa [isSpace] using inside head List.mem_cons_self

theorem Pauses.stops {text : List Char} (pauses : Pauses text) {inClass : Char → Bool}
    (outside : inClass ' ' = false) : Stops inClass text :=
  fun character member => pauses character member ▸ outside

theorem pauses_remark (remark? : Option Remark) : Pauses (remark?.elim [] Remark.text) := by
  cases remark? with
  | none => simp [Pauses]
  | some remark => exact pauses_of_isRun remark.spacesBefore

theorem pauses_tail (assignment? : Option Assignment) (remark? : Option Remark) :
    Pauses (tail assignment? remark?) := by
  cases assignment? with
  | none => exact pauses_remark remark?
  | some assignment =>
      simp only [tail, Option.elim_some, Assignment.text, List.append_assoc]
      exact pauses_of_isRun assignment.spacesBefore

/-- A remark cannot be taken for an assignment, since no slash is an equals
sign. -/
theorem unassigned_remark (remark? : Option Remark) :
    Unassigned (remark?.elim [] Remark.text) := by
  rintro spaces after isRun same
  cases remark? with
  | none => simp at same
  | some remark =>
      have slash : skipSpaces? remark.text = some ('/' :: '/' :: remark.body) :=
        skipSpaces?_eq_some_iff.mpr ⟨remark.before, rfl, remark.spacesBefore, by simp [isSpace]⟩
      have equals : skipSpaces? remark.text = some ('=' :: after) :=
        skipSpaces?_eq_some_iff.mpr ⟨spaces, same, isRun, by simp [isSpace]⟩
      simp [slash] at equals

theorem takeModifiers?_layout {modifiers? : Option (List Char)} {rest : List Char}
    (areModifiers : ∀ modifiers ∈ modifiers?, IsRun inCode modifiers) (pauses : Pauses rest) :
    takeModifiers? (modifiers?.elim [] ('/' :: ·) ++ rest) =
      some (modifiers?.elim [] id, rest) := by
  apply takeModifiers?_eq_some_iff.mpr
  cases modifiers? with
  | none => exact .inl ⟨rfl, rfl, pauses.stops (by decide)⟩
  | some modifiers => exact .inr ⟨rfl, areModifiers modifiers rfl, pauses.stops (by decide)⟩

theorem takeInitializer?_layout (assignment? : Option Assignment) (remark? : Option Remark) :
    takeInitializer? (tail assignment? remark?) =
      some (assignment?.elim [] Assignment.literal, remark?.elim [] Remark.text) := by
  apply takeInitializer?_eq_some_iff.mpr
  cases assignment? with
  | none => exact .inl ⟨rfl, rfl, unassigned_remark remark?⟩
  | some assignment =>
      refine .inr ⟨assignment.before, assignment.after, ?_, assignment.spacesBefore,
        assignment.spacesAfter, assignment.isLiteral, (pauses_remark remark?).stops (by decide)⟩
      simp [tail, Assignment.text]

theorem takeComment?_layout (remark? : Option Remark) :
    takeComment? (remark?.elim [] Remark.text) = some (remark?.elim [] Remark.comment) := by
  apply takeComment?_eq_some_iff.mpr
  cases remark? with
  | none => exact .inl ⟨rfl, rfl⟩
  | some remark =>
      exact .inr ⟨remark.before, remark.body, rfl, remark.spacesBefore, remark.nonempty,
        remark.onLine, rfl⟩

/-- Reading a layout gives its definition. -/
theorem ofCharacters?_text (layout : Layout) :
    ofCharacters? layout.text = some layout.definition := by
  -- Every part ends because the next one begins with a character outside its class.
  let afterCode := layout.modifiers?.elim [] ('/' :: ·) ++ tail layout.assignment? layout.remark?
  let afterTokens := '/' :: (layout.code ++ afterCode)
  let afterName := layout.tokens.flatMap bracketed ++ afterTokens
  have nameEnds : Stops continuesName afterName := by
    cases tokens_eq : layout.tokens with
    | nil => simp only [afterName, tokens_eq]; exact stops_cons.mpr (by decide)
    | cons token tokens => simp only [afterName, tokens_eq]; exact stops_cons.mpr (by decide)
  have tokensEnd : Stops (· == '[') afterTokens := stops_cons.mpr (by decide)
  have pauses := pauses_tail layout.assignment? layout.remark?
  have codeEnds : Stops inCode afterCode := by
    cases modifiers_eq : layout.modifiers? with
    | none => simp only [afterCode, modifiers_eq]; exact pauses.stops (by decide)
    | some modifiers => simp only [afterCode, modifiers_eq]; exact stops_cons.mpr (by decide)
  have takenName : takeName? layout.text = some (layout.name, afterName) :=
    takeName?_eq_some_iff.mpr ⟨rfl, layout.isName, nameEnds⟩
  have takenTokens : takeDimensions? afterName = some (layout.tokens, afterTokens) :=
    takeDimensions?_eq_some_iff.mpr ⟨rfl, layout.areTokens, tokensEnd⟩
  have takenCode : takeCode? afterTokens = some (layout.code, afterCode) :=
    takeCode?_eq_some_iff.mpr ⟨rfl, layout.isCode, codeEnds⟩
  have takenModifiers := takeModifiers?_layout layout.areModifiers pauses
  simp only [ofCharacters?, takenName, takenTokens, takenCode, takenModifiers,
    takeInitializer?_layout, takeComment?_layout, Option.bind_eq_bind, Option.bind_some, afterCode]
  rfl

theorem exists_modifiers {text rest modifiers : List Char}
    (taken : takeModifiers? text = some (modifiers, rest)) :
    ∃ modifiers? : Option (List Char), (∀ letters ∈ modifiers?, IsRun inCode letters) ∧
      modifiers?.elim [] id = modifiers ∧ text = modifiers?.elim [] ('/' :: ·) ++ rest := by
  rcases takeModifiers?_eq_some_iff.mp taken with ⟨rfl, rfl, -⟩ | ⟨rfl, areModifiers, -⟩
  · exact ⟨none, by simp, rfl, rfl⟩
  · exact ⟨some modifiers, by simpa using areModifiers, rfl, rfl⟩

theorem exists_assignment {text rest literal : List Char}
    (taken : takeInitializer? text = some (literal, rest)) :
    ∃ assignment? : Option Assignment, assignment?.elim [] Assignment.literal = literal ∧
      text = assignment?.elim [] Assignment.text ++ rest := by
  obtain ⟨rfl, rfl, -⟩ | ⟨before, after, rfl, spacesBefore, spacesAfter, isLiteral, -⟩ :=
    takeInitializer?_eq_some_iff.mp taken
  · exact ⟨none, rfl, rfl⟩
  · exact ⟨some ⟨before, after, literal, spacesBefore, spacesAfter, isLiteral⟩, rfl,
      by simp [Assignment.text]⟩

theorem exists_remark {text comment : List Char} (taken : takeComment? text = some comment) :
    ∃ remark? : Option Remark, remark?.elim [] Remark.comment = comment ∧
      text = remark?.elim [] Remark.text := by
  obtain ⟨rfl, rfl⟩ | ⟨before, body, rfl, spacesBefore, nonempty, onLine, rfl⟩ :=
    takeComment?_eq_some_iff.mp taken
  · exact ⟨none, rfl, rfl⟩
  · exact ⟨some ⟨before, body, spacesBefore, nonempty, onLine⟩, rfl, rfl⟩

/-- Whatever is read was written by a layout. -/
theorem exists_layout {characters : List Char} {definition : Definition}
    (read : ofCharacters? characters = some definition) :
    ∃ layout : Layout, layout.text = characters ∧ layout.definition = definition := by
  simp only [ofCharacters?, Option.bind_eq_bind, Option.bind_eq_some_iff, Prod.exists] at read
  obtain ⟨name, afterName, takenName, tokens, afterTokens, takenTokens, code, afterCode,
    takenCode, modifiers, afterModifiers, takenModifiers, literal, afterLiteral, takenLiteral,
    comment, takenComment, definition_eq⟩ := read
  obtain ⟨rfl, isName, -⟩ := takeName?_eq_some_iff.mp takenName
  obtain ⟨rfl, areTokens, -⟩ := takeDimensions?_eq_some_iff.mp takenTokens
  obtain ⟨rfl, isCode, -⟩ := takeCode?_eq_some_iff.mp takenCode
  obtain ⟨modifiers?, areModifiers, rfl, rfl⟩ := exists_modifiers takenModifiers
  obtain ⟨assignment?, rfl, rfl⟩ := exists_assignment takenLiteral
  obtain ⟨remark?, rfl, rfl⟩ := exists_remark takenComment
  exact ⟨⟨name, tokens, code, modifiers?, assignment?, remark?, isName, areTokens, isCode,
    areModifiers⟩, rfl, Option.some.inj definition_eq⟩

/-- Spaces end where something else begins, so they can be counted. -/
theorem spaces_injective {first second firstRest secondRest : List Char}
    (firstRun : IsRun isSpace first) (secondRun : IsRun isSpace second)
    (firstEnds : Stops isSpace firstRest) (secondEnds : Stops isSpace secondRest)
    (same : first ++ firstRest = second ++ secondRest) :
    first = second ∧ firstRest = secondRest := by
  have taken := congrArg (takeRun? isSpace) same
  rw [takeRun?_eq_some_iff.mpr ⟨rfl, firstRun, firstEnds⟩,
    takeRun?_eq_some_iff.mpr ⟨rfl, secondRun, secondEnds⟩] at taken
  simpa using taken

theorem remark_text_injective {first second : Option Remark}
    (same : first.elim [] Remark.text = second.elim [] Remark.text) : first = second := by
  have comments : first.elim [] Remark.comment = second.elim [] Remark.comment := by
    have taken := congrArg takeComment? same
    simpa only [takeComment?_layout, Option.some.injEq] using taken
  cases first with
  | none =>
      cases second with
      | none => rfl
      | some second => simp [Remark.comment] at comments
  | some first =>
      cases second with
      | none => simp [Remark.comment] at comments
      | some second =>
          have bodies : first.body = second.body := by simpa [Remark.comment] using comments
          have spaces := (spaces_injective first.spacesBefore second.spacesBefore
            (stops_cons.mpr (by decide)) (stops_cons.mpr (by decide)) same).1
          exact congrArg some (Remark.ext spaces bodies)

theorem assignment_text_injective {first second : Option Assignment} {rest : List Char}
    (literals : first.elim [] Assignment.literal = second.elim [] Assignment.literal)
    (same : first.elim [] Assignment.text ++ rest = second.elim [] Assignment.text ++ rest) :
    first = second := by
  have texts := List.append_cancel_right same
  cases first with
  | none =>
      cases second with
      | none => rfl
      | some second => exact absurd literals.symm second.isLiteral.1
  | some first =>
      cases second with
      | none => exact absurd literals first.isLiteral.1
      | some second =>
          obtain ⟨before, behind⟩ := spaces_injective first.spacesBefore second.spacesBefore
            (stops_cons.mpr (by decide)) (stops_cons.mpr (by decide)) texts
          have after := List.append_cancel_right
            ((List.tail_eq_of_cons_eq behind).trans (congrArg (second.after ++ ·) literals.symm))
          exact congrArg some (Assignment.ext before after literals)

theorem modifiers_injective {first second : Option (List Char)}
    (areFirst : ∀ modifiers ∈ first, IsRun inCode modifiers)
    (areSecond : ∀ modifiers ∈ second, IsRun inCode modifiers)
    (same : first.elim [] id = second.elim [] id) : first = second := by
  cases first with
  | none =>
      cases second with
      | none => rfl
      | some second => exact absurd same.symm (areSecond second rfl).1
  | some first =>
      cases second with
      | none => exact absurd same (areFirst first rfl).1
      | some second => exact congrArg some same

theorem text_injective : Function.Injective text := by
  intro first second same
  have definitions : first.definition = second.definition := by
    have read := ofCharacters?_text first
    rw [same, ofCharacters?_text second] at read
    exact (Option.some.inj read).symm
  have names : first.name = second.name :=
    String.ofList_injective (congrArg Definition.name definitions)
  have tokens : first.tokens = second.tokens :=
    List.map_injective_iff.mpr (fun _ _ => String.ofList_injective)
      (congrArg Definition.dimensions definitions)
  have codes : first.code = second.code :=
    String.ofList_injective (congrArg Definition.code definitions)
  have modifiers : first.modifiers? = second.modifiers? :=
    modifiers_injective first.areModifiers second.areModifiers
      (String.ofList_injective (congrArg Definition.modifiers definitions))
  -- The definition forgets how many spaces there are, so they come from the texts.
  have tails : tail first.assignment? first.remark? = tail second.assignment? second.remark? := by
    unfold text at same
    rw [names, tokens, codes, modifiers] at same
    simpa using same
  have taken := congrArg takeInitializer? tails
  rw [takeInitializer?_layout, takeInitializer?_layout] at taken
  obtain ⟨literals, remarkTexts⟩ : _ ∧ _ := Prod.mk.inj (Option.some.inj taken)
  have remarks := remark_text_injective remarkTexts
  have assignments : first.assignment? = second.assignment? := by
    unfold tail at tails
    rw [remarks] at tails
    exact assignment_text_injective literals tails
  exact Layout.ext names tokens codes modifiers assignments remarks

theorem newline_not_mem_tokens {tokens : List (List Char)}
    (areTokens : ∀ token ∈ tokens, IsToken token) : '\n' ∉ tokens.flatMap bracketed := by
  intro member
  obtain ⟨token, isMember, member⟩ := List.mem_flatMap.mp member
  have inToken : '\n' ∈ token := by simpa [bracketed] using member
  exact (areTokens token isMember).newline_not_mem inToken

theorem newline_not_mem_tail (assignment? : Option Assignment) (remark? : Option Remark) :
    '\n' ∉ tail assignment? remark? := by
  have assigned : '\n' ∉ assignment?.elim [] Assignment.text := by
    cases assignment? with
    | none => simp
    | some assignment =>
        have before : '\n' ∉ assignment.before := assignment.spacesBefore.not_mem (by decide)
        have after : '\n' ∉ assignment.after := assignment.spacesAfter.not_mem (by decide)
        have literal : '\n' ∉ assignment.literal := assignment.isLiteral.not_mem (by decide)
        simp [Assignment.text, before, after, literal]
  have remarked : '\n' ∉ remark?.elim [] Remark.text := by
    cases remark? with
    | none => simp
    | some remark =>
        have before : '\n' ∉ remark.before := remark.spacesBefore.not_mem (by decide)
        simp [Remark.text, before, remark.onLine]
  simp [tail, assigned, remarked]

/-- Only the code and the modifiers can bring a newline into a line. -/
theorem newline_not_mem_text {layout : Layout} (code : '\n' ∉ layout.code)
    (modifiers : ∀ letters ∈ layout.modifiers?, '\n' ∉ letters) : '\n' ∉ layout.text := by
  have lettersOnLine : '\n' ∉ layout.modifiers?.elim [] ('/' :: ·) := by
    cases modifiers_eq : layout.modifiers? with
    | none => simp
    | some letters => simpa using modifiers letters modifiers_eq
  simp only [text, List.mem_append, List.mem_cons, not_or]
  exact ⟨layout.isName.newline_not_mem, newline_not_mem_tokens layout.areTokens, by decide,
    code, lettersOnLine, newline_not_mem_tail layout.assignment? layout.remark?⟩

end Layout

/-- A line is read exactly if it is laid out by the grammar, the definition
holds its parts, and a text is laid out in one way at most. -/
theorem ofLine?_iff_unique_layout :
    (∀ (line : String) (definition : Definition),
      ofLine? line = some definition ↔
        ∃ layout : Layout, Text.Terminated layout.text line.toList ∧
          layout.definition = definition) ∧
      Function.Injective Layout.text := by
  refine ⟨fun line definition => ?_, Layout.text_injective⟩
  constructor
  · intro read
    obtain ⟨layout, text_eq, definition_eq⟩ := Layout.exists_layout read
    exact ⟨layout, Text.terminated_iff.mpr text_eq.symm, definition_eq⟩
  · rintro ⟨layout, terminated, rfl⟩
    rw [ofLine?, Text.terminated_iff.mp terminated]
    exact layout.ofCharacters?_text

end Definition

end ColumnCode

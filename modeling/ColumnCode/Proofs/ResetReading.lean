import ColumnCode.Proofs.ResetEffect

/-!
# Reading a reset statement

A reader takes a statement from its text: loop heads as long as there are any,
and then one assignment.  A second reader takes apart a nest in which each loop
runs through the variable of the loop around it.  Together they find what a
reset statement was made of: the name of the column, its rank and the value.
-/

namespace ColumnCode

open Definition (IsName IsRun stops_cons inLiteral takeName? takeName?_eq_some_iff takeRun?
  takeRun?_eq_some_iff)

namespace Statement

section Readers

variable {text rest element range target value : List Char}

theorem dropPrefix?_eq_some {front : List Char} :
    text.dropPrefix? front = some rest ↔ text = front ++ rest := by
  simp [List.dropPrefix?_eq_some_iff]

/-- Take the head of a loop: its variable, and what it runs through. -/
def takeHead? (text : List Char) : Option (List Char × List Char × List Char) := do
  let text ← text.dropPrefix? "for (auto& ".toList
  let (element, text) ← takeName? text
  let text ← text.dropPrefix? " : ".toList
  let (range, text) ← takeName? text
  let rest ← text.dropPrefix? ") ".toList
  return (element, range, rest)

/-- Take the assignment that ends a statement. -/
def takeAssignment? (text : List Char) : Option (List Char × List Char) := do
  let (target, text) ← takeName? text
  let text ← text.dropPrefix? " = ".toList
  let (value, text) ← takeRun? inLiteral text
  if text = [';'] then some (target, value) else none

theorem takeHead?_eq_some_iff :
    takeHead? text = some (element, range, rest) ↔
      text = "for (auto& ".toList ++ (element ++ (" : ".toList ++ (range ++
        (") ".toList ++ rest)))) ∧ IsName element ∧ IsName range := by
  simp only [takeHead?, Option.bind_eq_bind, Option.bind_eq_some_iff, dropPrefix?_eq_some,
    Prod.exists, takeName?_eq_some_iff, Option.pure_def, Option.some.injEq, Prod.mk.injEq]
  constructor
  · rintro ⟨_, rfl, element, _, ⟨rfl, isElement, -⟩, _, rfl, range, _, ⟨rfl, isRange, -⟩, rest,
      rfl, rfl, rfl, rfl⟩
    exact ⟨rfl, isElement, isRange⟩
  · rintro ⟨rfl, isElement, isRange⟩
    exact ⟨_, rfl, element, _, ⟨rfl, isElement, stops_cons.mpr (by decide)⟩, _, rfl, range, _,
      ⟨rfl, isRange, stops_cons.mpr (by decide)⟩, rest, rfl, rfl, rfl, rfl⟩

theorem takeAssignment?_eq_some_iff :
    takeAssignment? text = some (target, value) ↔
      text = target ++ (" = ".toList ++ (value ++ [';'])) ∧ IsName target ∧
        IsRun inLiteral value := by
  simp only [takeAssignment?, Option.bind_eq_bind, Option.bind_eq_some_iff, dropPrefix?_eq_some,
    Prod.exists, takeName?_eq_some_iff, takeRun?_eq_some_iff, Option.ite_none_right_eq_some,
    Option.some.injEq, Prod.mk.injEq]
  constructor
  · rintro ⟨target, _, ⟨rfl, isTarget, -⟩, _, rfl, value, _, ⟨rfl, isValue, -⟩, rfl, rfl, rfl⟩
    exact ⟨rfl, isTarget, isValue⟩
  · rintro ⟨rfl, isTarget, isValue⟩
    exact ⟨target, _, ⟨rfl, isTarget, stops_cons.mpr (by decide)⟩, _, rfl, value, _,
      ⟨rfl, isValue, stops_cons.mpr (by decide)⟩, rfl, rfl, rfl⟩

theorem length_lt_of_takeHead? (taken : takeHead? text = some (element, range, rest)) :
    rest.length < text.length := by
  obtain ⟨rfl, -⟩ := takeHead?_eq_some_iff.mp taken
  simp
  omega

/-- Read a statement: a loop if there is a head, and otherwise an assignment. -/
def ofCharacters? (text : List Char) : Option Statement :=
  match _head : takeHead? text with
  | some (element, range, rest) =>
      (ofCharacters? rest).map (forEach (String.ofList element) (String.ofList range))
  | none =>
      (takeAssignment? text).map fun (target, value) =>
        assign (String.ofList target) (String.ofList value)
termination_by text.length
decreasing_by exact length_lt_of_takeHead? _head

theorem ofCharacters?_of_head (head : takeHead? text = some (element, range, rest)) :
    ofCharacters? text =
      (ofCharacters? rest).map (forEach (String.ofList element) (String.ofList range)) := by
  rw [ofCharacters?]
  split
  next taken =>
    rw [head] at taken
    cases taken
    rfl
  next taken =>
    rw [head] at taken
    cases taken

theorem ofCharacters?_of_no_head (noHead : takeHead? text = none) :
    ofCharacters? text = (takeAssignment? text).map fun (target, value) =>
      assign (String.ofList target) (String.ofList value) := by
  rw [ofCharacters?]
  split
  next taken =>
    rw [noHead] at taken
    cases taken
  next => rfl

theorem takeHead?_assignment (isTarget : IsName target) :
    takeHead? (target ++ (" = ".toList ++ rest)) = none := by
  by_contra taken
  obtain ⟨⟨element, range, after⟩, taken⟩ := Option.ne_none_iff_exists'.mp taken
  obtain ⟨same, -⟩ := takeHead?_eq_some_iff.mp taken
  have isFor : IsName "for".toList := by decide
  have equals : " = ".toList = ' ' :: '=' :: " ".toList := by decide
  have opened : "for (auto& ".toList = "for".toList ++ ' ' :: '(' :: "auto& ".toList := by decide
  rw [equals, opened, List.append_assoc, List.cons_append, List.cons_append] at same
  -- The name would be the word that begins a head, and no parenthesis follows it.
  obtain ⟨-, ends⟩ := Definition.run_injective isTarget.inside (stops_cons.mpr (by decide))
    isFor.inside (stops_cons.mpr (by decide)) same
  simp at ends

/-- A statement is read from what it is written as. -/
theorem ofCharacters?_render {statement : Statement} (isWritten : statement.IsWritten) :
    ofCharacters? statement.render.toList = some statement := by
  induction statement with
  | assign target value =>
      obtain ⟨isTarget, isValue⟩ := isWritten
      have written : (assign target value).render.toList =
          target.toList ++ (" = ".toList ++ (value.toList ++ [';'])) := by
        simp [render]
      have noHead : takeHead? (assign target value).render.toList = none := by
        rw [written, takeHead?_assignment isTarget]
      rw [ofCharacters?_of_no_head noHead,
        takeAssignment?_eq_some_iff.mpr ⟨written, isTarget, isValue⟩]
      simp
  | forEach element range body ih =>
      obtain ⟨isElement, isRange, isBody⟩ := isWritten
      have written : (forEach element range body).render.toList =
          "for (auto& ".toList ++ (element.toList ++ (" : ".toList ++ (range.toList ++
            (") ".toList ++ body.render.toList)))) := by
        simp [render]
      rw [ofCharacters?_of_head (takeHead?_eq_some_iff.mpr ⟨written, isElement, isRange⟩),
        ih isBody]
      simp

/-- The reader finds the statement that a text was written from, and no other. -/
theorem ofCharacters?_eq_some_iff {statement : Statement} :
    ofCharacters? text = some statement ↔
      statement.IsWritten ∧ statement.render.toList = text := by
  constructor
  · intro read
    fun_induction ofCharacters? text generalizing statement with
    | case1 text element range rest head ih =>
        obtain ⟨rfl, isElement, isRange⟩ := takeHead?_eq_some_iff.mp head
        obtain ⟨body, readBody, rfl⟩ := Option.map_eq_some_iff.mp read
        obtain ⟨isBody, rfl⟩ := ih readBody
        refine ⟨⟨?_, ?_, isBody⟩, ?_⟩ <;> simp [render, isElement, isRange]
    | case2 text head =>
        obtain ⟨⟨target, value⟩, taken, rfl⟩ := Option.map_eq_some_iff.mp read
        obtain ⟨rfl, isTarget, isValue⟩ := takeAssignment?_eq_some_iff.mp taken
        refine ⟨⟨?_, ?_⟩, ?_⟩ <;> simp [render, isTarget, isValue]
  · rintro ⟨isWritten, rfl⟩
    exact ofCharacters?_render isWritten

end Readers

/-- Take apart a nest whose loops bind the variables from a depth on and run
through one another: what the outermost runs through, the number of loops, and
what is assigned in the innermost. -/
def nest? (depth : Nat) : Statement → Option (String × Nat × String)
  | assign target value => some (target, 0, value)
  | forEach element range body =>
      (nest? (depth + 1) body).bind fun (inner, rank, value) =>
        if element = loopVariable depth ∧ inner = element then
          some (range, rank + 1, value)
        else
          none

theorem nest?_eq_some_iff {statement : Statement} {depth rank : Nat} {range value : String} :
    nest? depth statement = some (range, rank, value) ↔
      statement = fill value range depth rank := by
  induction statement generalizing depth rank range with
  | assign target assigned =>
      cases rank with
      | zero => simp [nest?, fill]
      | succ rank => simp [nest?, fill]
  | forEach element outer body ih =>
      constructor
      · intro taken
        obtain ⟨⟨inner, loops, assigned⟩, takenBody, chosen⟩ := Option.bind_eq_some_iff.mp taken
        obtain ⟨⟨rfl, rfl⟩, same⟩ := Option.ite_none_right_eq_some.mp chosen
        cases same
        rw [ih.mp takenBody, fill]
      · intro same
        cases rank with
        | zero => cases same
        | succ rank =>
            obtain ⟨rfl, rfl, isBody⟩ := forEach.inj same
            rw [nest?, ih.mpr isBody]
            simp

/-- The name, the rank and the value that a reset statement was written with. -/
def readNest? (text : String) : Option (String × Nat × String) :=
  (ofCharacters? text.toList).bind (nest? 0)

theorem isWritten_fill_iff {value range : String} {depth rank : Nat} :
    (fill value range depth rank).IsWritten ↔
      IsName range.toList ∧ IsRun inLiteral value.toList := by
  constructor
  · intro isWritten
    induction rank generalizing range depth with
    | zero => exact isWritten
    | succ rank ih =>
        obtain ⟨-, isRange, isBody⟩ := isWritten
        exact ⟨isRange, (ih isBody).2⟩
  · rintro ⟨isName, isLiteral⟩
    exact isWritten_fill isLiteral isName depth rank

/-- The reader accepts the rows of loops over a name, and no other text. -/
theorem readNest?_eq_some_iff {text name value : String} {rank : Nat} :
    readNest? text = some (name, rank, value) ↔
      (IsName name.toList ∧ IsRun inLiteral value.toList) ∧ loopRow name rank value = text := by
  simp only [readNest?, Option.bind_eq_some_iff, ofCharacters?_eq_some_iff, nest?_eq_some_iff,
    exists_eq_right, isWritten_fill_iff, render_fill, String.toList_inj]

end Statement

namespace Branch

open Statement (loopRow loopVariable loopVariable_injective readNest?)

/-- The reader finds what the reset statement of an accepted branch is made of. -/
theorem readNest?_resetStatement {line : String} {branch : Branch}
    (accepted : (read line).value = .ok branch) :
    readNest? branch.resetStatement.render =
      some (branch.name, branch.shape.rank, branch.resetValue) := by
  have wellFormed := wellFormed_of_read accepted
  exact Statement.readNest?_eq_some_iff.mpr
    ⟨⟨wellFormed.isName, wellFormed.isRun_resetValue⟩, branch.render_resetStatement.symm⟩

/-- The reset statement of an accepted branch is a row of loops over different
variables, from which the name, the rank and the reset value are read back.
Branches that differ in one of these have different reset statements. -/
theorem reset_statement_read_back {firstLine secondLine : String} {first second : Branch}
    (acceptedFirst : (read firstLine).value = .ok first)
    (acceptedSecond : (read secondLine).value = .ok second) :
    first.resetStatement.render = loopRow first.name first.shape.rank first.resetValue ∧
      ((List.range first.shape.rank).map loopVariable).Nodup ∧
      (∀ text name rank value, readNest? text = some (name, rank, value) ↔
        (IsName name.toList ∧ IsRun inLiteral value.toList) ∧ loopRow name rank value = text) ∧
      readNest? first.resetStatement.render =
        some (first.name, first.shape.rank, first.resetValue) ∧
      (first.resetStatement.render = second.resetStatement.render ↔
        first.name = second.name ∧ first.shape.rank = second.shape.rank ∧
          first.resetValue = second.resetValue) := by
  have readFirst := readNest?_resetStatement acceptedFirst
  have readSecond := readNest?_resetStatement acceptedSecond
  refine ⟨first.render_resetStatement, List.nodup_range.map loopVariable_injective,
    fun _ _ _ _ => Statement.readNest?_eq_some_iff, readFirst, ?_⟩
  constructor
  · intro same
    rw [same, readSecond] at readFirst
    simpa [eq_comm] using readFirst
  · rintro ⟨name, rank, value⟩
    rw [render_resetStatement, render_resetStatement, name, rank, value]

/-- Two columns that are named like a loop variable, of the same rank and with
the same value. -/
theorem reset_statement_read_back_alike :
    (read "p0[2][3]/I = -1").value =
        .ok ⟨"p0", .int32, .ofTokens ["2", "3"], ⟨false, false⟩, "-1", ""⟩ ∧
      (read "p0[a][b]/F/m = -1 // cached").value =
        .ok ⟨"p0", .float32, .ofTokens ["a", "b"], ⟨false, true⟩, "-1", " // cached"⟩ ∧
      readNest? "for (auto& p0 : p0) for (auto& p1 : p0) p1 = -1;" = some ("p0", 2, "-1") ∧
      (⟨"p0", .int32, .ofTokens ["2", "3"], ⟨false, false⟩, "-1", ""⟩ :
          Branch).resetStatement.render =
        (⟨"p0", .float32, .ofTokens ["a", "b"], ⟨false, true⟩, "-1", " // cached"⟩ :
          Branch).resetStatement.render := by
  have first : (read "p0[2][3]/I = -1").value =
      .ok ⟨"p0", .int32, .ofTokens ["2", "3"], ⟨false, false⟩, "-1", ""⟩ := by
    decide +kernel
  have second : (read "p0[a][b]/F/m = -1 // cached").value =
      .ok ⟨"p0", .float32, .ofTokens ["a", "b"], ⟨false, true⟩, "-1", " // cached"⟩ := by
    decide +kernel
  obtain ⟨-, -, -, readBack, alike⟩ := reset_statement_read_back first second
  have written : (⟨"p0", .int32, .ofTokens ["2", "3"], ⟨false, false⟩, "-1", ""⟩ :
      Branch).resetStatement.render = "for (auto& p0 : p0) for (auto& p1 : p0) p1 = -1;" := by
    decide +kernel
  rw [written] at readBack
  exact ⟨first, second, readBack, alike.mpr ⟨rfl, rfl, rfl⟩⟩

end Branch

end ColumnCode

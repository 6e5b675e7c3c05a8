import ColumnCode.Proofs.SourceEvents
import ColumnCode.Target.Document
import Mathlib.Data.List.Forall2

/-!
# Modifier letters

Modifiers are letters in a row, but they act as a set: a property is given if
its letter is anywhere among them.  Lines that spell the same modifiers in two
ways define the same branch, and lists of such lines lead to the same code.
Only the warnings about letters without a meaning tell them apart.
-/

namespace ColumnCode

namespace Modifiers

/-- What one letter does: it gives a property, or it is reported. -/
def readLetter (branch : String) (modifiers : Modifiers) (letter : Char) : Logged Modifiers :=
  if letter = transientLetter then
    pure { modifiers with transient := true }
  else if letter = mutableLetter then
    pure { modifiers with mutable := true }
  else do
    Logged.report [.unknownModifier branch letter]
    return modifiers

/-- Read letters one after another.  No property is given before the first. -/
def readLetters (branch : String) (letters : List Char) : Logged Modifiers :=
  letters.foldlM (readLetter branch) ⟨false, false⟩

theorem readLetter_eq (branch : String) (modifiers : Modifiers) (letter : Char) :
    readLetter branch modifiers letter =
      ⟨(unknownLetters [letter]).map (.unknownModifier branch),
        ⟨modifiers.transient || transientLetter == letter,
          modifiers.mutable || mutableLetter == letter⟩⟩ := by
  unfold readLetter
  split
  next isTransient =>
    subst isTransient
    simp [unknownLetters, transientLetter, mutableLetter, pure]
  next notTransient =>
    split
    next isMutable =>
      subst isMutable
      simp [unknownLetters, transientLetter, mutableLetter, pure]
    next notMutable =>
      have others : (transientLetter == letter) = false ∧ (mutableLetter == letter) = false :=
        ⟨beq_false_of_ne (Ne.symm notTransient), beq_false_of_ne (Ne.symm notMutable)⟩
      simp [unknownLetters, notTransient, notMutable, others, pure, bind, Logged.report]

theorem foldlM_readLetter (branch : String) (letters : List Char) (modifiers : Modifiers) :
    letters.foldlM (readLetter branch) modifiers =
      ⟨(unknownLetters letters).map (.unknownModifier branch),
        ⟨modifiers.transient || letters.contains transientLetter,
          modifiers.mutable || letters.contains mutableLetter⟩⟩ := by
  induction letters generalizing modifiers with
  | nil => simp [unknownLetters, pure]
  | cons letter letters ih =>
      have reported : unknownLetters (letter :: letters) =
          unknownLetters [letter] ++ unknownLetters letters :=
        List.filter_append [letter] letters
      rw [List.foldlM_cons, readLetter_eq, reported, List.map_append, List.contains_cons,
        List.contains_cons, ← Bool.or_assoc, ← Bool.or_assoc]
      simp only [bind, ih]

/-- Reading the letters in a row gives the properties that they give as a set,
and reports the letters without a meaning in their order. -/
theorem readLetters_eq (branch : String) (letters : List Char) :
    readLetters branch letters =
      ⟨(unknownLetters letters).map (.unknownModifier branch), ofLetters letters⟩ := by
  simp [readLetters, foldlM_readLetter, ofLetters]

end Modifiers

namespace Branch

/-- Two lines with the same parts, except that their modifiers can be spelled in
different ways: each letter with a meaning is among both or among neither. -/
structure Respelling (line other : String) where
  definition : Definition
  letters : String
  captured : Definition.ofLine? line = some definition
  capturedOther : Definition.ofLine? other = some { definition with modifiers := letters }
  transient : '!' ∈ letters.toList ↔ '!' ∈ definition.modifiers.toList
  mutable : 'm' ∈ letters.toList ↔ 'm' ∈ definition.modifiers.toList

/-- The line is accepted as the branch, and these are its modifier letters: those
with a meaning tell the properties, wherever they stand, and all others are
reported in their order. -/
structure ReadsLetters (line : String) (letters : List Char) (branch : Branch) : Prop where
  accepted : (read line).value = .ok branch
  transient : branch.modifiers.transient = true ↔ '!' ∈ letters
  mutable : branch.modifiers.mutable = true ↔ 'm' ∈ letters
  inARow : Modifiers.readLetters branch.name letters = ⟨(read line).events, branch.modifiers⟩
  reported : (read line).events =
    (letters.filter fun letter => letter != '!' && letter != 'm').map
      (.unknownModifier branch.name)

theorem readsLetters_of_captured {line : String} {definition : Definition} {branch : Branch}
    (captured : Definition.ofLine? line = some definition)
    (accepted : (read line).value = .ok branch) :
    ReadsLetters line definition.modifiers.toList branch := by
  obtain ⟨meant, name, reads⟩ := read_of_captured captured accepted
  have modified : branch.modifiers = Modifiers.ofLetters definition.modifiers.toList := by
    obtain ⟨scalar, -, rfl⟩ := ofDefinition_eq_ok_iff.mp meant
    rfl
  have reported : (read line).events = (Modifiers.unknownLetters definition.modifiers.toList).map
      (.unknownModifier branch.name) := by
    rw [reads, warnings, name]
  exact {
    accepted := accepted
    transient := by rw [modified]; exact List.contains_iff_mem
    mutable := by rw [modified]; exact List.contains_iff_mem
    inARow := by rw [Modifiers.readLetters_eq, reported, modified]
    reported := reported }

namespace Respelling

variable {line other : String}

def respelled (respelling : Respelling line other) : Definition :=
  { respelling.definition with modifiers := respelling.letters }

theorem ofLetters_eq (respelling : Respelling line other) :
    Modifiers.ofLetters respelling.letters.toList =
      Modifiers.ofLetters respelling.definition.modifiers.toList := by
  have transient := respelling.transient
  have mutable := respelling.mutable
  simp only [← List.contains_iff_mem, ← Bool.eq_iff_iff] at transient mutable
  rw [Modifiers.ofLetters, Modifiers.transientLetter, Modifiers.mutableLetter, transient, mutable]
  rfl

/-- Both spellings mean the same branch. -/
theorem ofDefinition_respelled (respelling : Respelling line other) :
    ofDefinition respelling.respelled = ofDefinition respelling.definition := by
  simp only [ofDefinition, respelled, respelling.ofLetters_eq]

theorem accepts (respelling : Respelling line other) {branch : Branch}
    (accepted : (read line).value = .ok branch) : (read other).value = .ok branch := by
  have meant := (read_of_captured respelling.captured accepted).1
  exact value_read_eq_ok_iff.mpr ⟨respelling.respelled, respelling.capturedOther,
    respelling.ofDefinition_respelled.trans meant⟩

end Respelling

end Branch

namespace Source

/-- The line can be respelled, but it keeps its number. -/
def RespelledEntry (first second : String × Nat) : Prop :=
  Nonempty (Branch.Respelling first.1 second.1) ∧ second.2 = first.2

theorem filter_warnings (definition : Definition) :
    (Branch.warnings definition).filter (·.level ≠ .warn) = [] := by
  refine List.filter_eq_nil_iff.mpr fun event member => ?_
  obtain ⟨letter, -, rfl⟩ := List.mem_map.mp member
  simp [Event.level]

/-- Where a line is read together with those behind it, it gives the first branch. -/
theorem exists_of_accepted {line : String} {number : Nat} {rest : List (String × Nat)}
    {branches : List Branch}
    (accepted : (readEntries ((line, number) :: rest)).value = .ok branches) :
    ∃ branch others, branches = branch :: others ∧ (Branch.read line).value = .ok branch ∧
      (readEntries rest).value = .ok others := by
  cases read : (Branch.read line).value with
  | error rejection =>
      rw [value_readEntries_of_error read] at accepted
      cases accepted
  | ok branch =>
      rw [value_readEntries_of_ok read] at accepted
      cases behind : (readEntries rest).value with
      | error failure =>
          rw [behind] at accepted
          cases accepted
      | ok others =>
          rw [behind] at accepted
          exact ⟨branch, others, (Except.ok.inj accepted).symm, rfl, rfl⟩

/-- An accepted line adds one event that is no warning. -/
theorem filter_readEntries_of_accepted {line : String} {branch : Branch}
    (accepted : (Branch.read line).value = .ok branch) (number : Nat)
    (rest : List (String × Nat)) :
    (readEntries ((line, number) :: rest)).events.filter (·.level ≠ .warn) =
      .accepted number branch.name :: (readEntries rest).events.filter (·.level ≠ .warn) := by
  obtain ⟨definition, captured, -⟩ := Branch.value_read_eq_ok_iff.mp accepted
  obtain ⟨-, -, reads⟩ := Branch.read_of_captured captured accepted
  rw [readEntries_of_read reads, List.filter_append, filter_warnings, List.nil_append,
    List.filter_cons_of_pos (by simp [Event.level])]

theorem readEntries_respelled {entries others : List (String × Nat)}
    (respelled : List.Forall₂ RespelledEntry entries others) {branches : List Branch}
    (accepted : (readEntries entries).value = .ok branches) :
    (readEntries others).value = .ok branches ∧
      (readEntries others).events.filter (·.level ≠ .warn) =
        (readEntries entries).events.filter (·.level ≠ .warn) := by
  induction respelled generalizing branches with
  | nil => exact ⟨accepted, rfl⟩
  | @cons first second entries others one _ ih =>
      obtain ⟨line, number⟩ := first
      obtain ⟨other, numberOther⟩ := second
      obtain ⟨⟨respelling⟩, sameNumber⟩ := one
      obtain rfl : numberOther = number := sameNumber
      obtain ⟨branch, behind, rfl, read, rest⟩ := exists_of_accepted accepted
      obtain ⟨restOther, events⟩ := ih rest
      have readOther := respelling.accepts read
      refine ⟨?_, ?_⟩
      · rw [value_readEntries_of_ok readOther, restOther]
        rfl
      · rw [filter_readEntries_of_accepted readOther, filter_readEntries_of_accepted read, events]

end Source

namespace Modifiers

/-- Modifier letters act as a set.  An accepted line and another spelling of it are
read as one branch, each with warnings about its own letters without a meaning.
Lists of lines that are respelled one by one are read as the same branches, so
the code of every operation and the document are the same, and their events
differ in warnings only. -/
theorem letters_act_as_set :
    (∀ (line other : String) (respelling : Branch.Respelling line other) (branch : Branch),
      (Branch.read line).value = .ok branch →
        Branch.ReadsLetters line respelling.definition.modifiers.toList branch ∧
          Branch.ReadsLetters other respelling.letters.toList branch) ∧
      ∀ (entries others : List (String × Nat)) (branches : List Branch),
        List.Forall₂ Source.RespelledEntry entries others →
        (Source.readEntries entries).value = .ok branches →
          (Source.readEntries others).value = .ok branches ∧
          (Source.readEntries others).events.filter (·.level ≠ .warn) =
            (Source.readEntries entries).events.filter (·.level ≠ .warn) ∧
          (∀ (target : Target) (operation : Operation) (listing : Listing),
            (Source.readEntries others).value.map
                (fun listed => (target.write operation listed listing).value) =
              (Source.readEntries entries).value.map
                fun listed => (target.write operation listed listing).value) ∧
          ∀ target : Target,
            (Source.readEntries others).value.map (fun listed => (target.document listed).value) =
              (Source.readEntries entries).value.map
                fun listed => (target.document listed).value := by
  refine ⟨fun line other respelling branch accepted => ?_,
    fun entries others branches respelled accepted => ?_⟩
  · exact ⟨Branch.readsLetters_of_captured respelling.captured accepted,
      Branch.readsLetters_of_captured respelling.capturedOther (respelling.accepts accepted)⟩
  · obtain ⟨acceptedOthers, events⟩ := Source.readEntries_respelled respelled accepted
    have same : (Source.readEntries others).value = (Source.readEntries entries).value :=
      acceptedOthers.trans accepted.symm
    exact ⟨acceptedOthers, events, fun target operation listing => by rw [same],
      fun target => by rw [same]⟩

/-- Two lines with other spellings of their modifiers.  The second line has none in
its first spelling. -/
theorem letters_act_as_set_respelled :
    (Branch.read "x[2]/F/qm!q // c").value =
        .ok ⟨"x", .float32, .ofTokens ["2"], ⟨true, true⟩, "", " // c"⟩ ∧
      (Branch.read "x[2]/F/!!m-m // c").value =
        .ok ⟨"x", .float32, .ofTokens ["2"], ⟨true, true⟩, "", " // c"⟩ ∧
      (Branch.read "x[2]/F/qm!q // c").events =
        [.unknownModifier "x" 'q', .unknownModifier "x" 'q'] ∧
      (Branch.read "x[2]/F/!!m-m // c").events = [.unknownModifier "x" '-'] ∧
      (Source.readEntries [("x[2]/F/qm!q // c", 1), ("n/I = 5", 3)]).value =
        .ok [⟨"x", .float32, .ofTokens ["2"], ⟨true, true⟩, "", " // c"⟩,
          ⟨"n", .int32, .ofTokens [], ⟨false, false⟩, "5", ""⟩] ∧
      (Source.readEntries [("x[2]/F/!!m-m // c", 1), ("n/I/zz = 5", 3)]).value =
        .ok [⟨"x", .float32, .ofTokens ["2"], ⟨true, true⟩, "", " // c"⟩,
          ⟨"n", .int32, .ofTokens [], ⟨false, false⟩, "5", ""⟩] := by
  let first : Branch.Respelling "x[2]/F/qm!q // c" "x[2]/F/!!m-m // c" :=
    ⟨⟨"x", ["2"], "F", "qm!q", "", " // c"⟩, "!!m-m", by decide +kernel, by decide +kernel,
      by decide, by decide⟩
  let second : Branch.Respelling "n/I = 5" "n/I/zz = 5" :=
    ⟨⟨"n", [], "I", "", "5", ""⟩, "zz", by decide +kernel, by decide +kernel,
      by decide, by decide⟩
  have accepted : (Branch.read "x[2]/F/qm!q // c").value =
      .ok ⟨"x", .float32, .ofTokens ["2"], ⟨true, true⟩, "", " // c"⟩ := by decide +kernel
  have listed : (Source.readEntries [("x[2]/F/qm!q // c", 1), ("n/I = 5", 3)]).value =
      .ok [⟨"x", .float32, .ofTokens ["2"], ⟨true, true⟩, "", " // c"⟩,
        ⟨"n", .int32, .ofTokens [], ⟨false, false⟩, "5", ""⟩] := by decide +kernel
  obtain ⟨reads, readsOther⟩ := letters_act_as_set.1 _ _ first _ accepted
  have respelled : List.Forall₂ Source.RespelledEntry
      [("x[2]/F/qm!q // c", 1), ("n/I = 5", 3)]
      [("x[2]/F/!!m-m // c", 1), ("n/I/zz = 5", 3)] :=
    .cons ⟨⟨first⟩, rfl⟩ (.cons ⟨⟨second⟩, rfl⟩ .nil)
  obtain ⟨listedOthers, -⟩ := letters_act_as_set.2 _ _ _ respelled listed
  exact ⟨accepted, readsOther.accepted, reads.reported.trans (by decide),
    readsOther.reported.trans (by decide), listed, listedOthers⟩

end Modifiers

end ColumnCode

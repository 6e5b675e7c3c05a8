import ColumnCode.Proofs.BranchDefinition
import ColumnCode.Source
import Mathlib.Data.List.DropRight

/-!
# Which line of a source fails

Reading a source stops at its first line that is neither blank nor a
definition.  The failure names that line by its number among all lines, the
blank ones included, and quotes it.
-/

namespace ColumnCode

namespace Text

theorem trimEnd_trim (text : String) : trimEnd (trim text) = trim text := by
  rw [← String.toList_inj, toList_trimEnd, toList_trim]
  simp only [dropBlanks, dropBlanksEnd, List.reverse_reverse]
  rw [List.dropWhile_idempotent]

end Text

namespace Branch

/-- Why a line is not a definition: it is no line of the grammar, or its code is
the letter of no type. -/
inductive Rejects (line : String) : Reason → Prop
  | grammar (unread : Definition.ofLine? line = none) : Rejects line .grammar
  | unknownType {definition : Definition} (read : Definition.ofLine? line = some definition)
      (unknown : ∀ scalar : Scalar, definition.code ≠ String.singleton scalar.letter) :
      Rejects line (.unknownType definition.code)

theorem Rejects.unique {line : String} {first second : Reason} (rejectsFirst : Rejects line first)
    (rejectsSecond : Rejects line second) : first = second := by
  cases rejectsFirst with
  | grammar unread =>
      cases rejectsSecond with
      | grammar => rfl
      | unknownType read unknown => simp [unread] at read
  | unknownType read unknown =>
      cases rejectsSecond with
      | grammar unread => simp [unread] at read
      | unknownType other _ => rw [Option.some.inj (read.symm.trans other)]

theorem ofDefinition_eq_error_iff {definition : Definition} {reason : Reason} :
    ofDefinition definition = .error reason ↔
      (∀ scalar : Scalar, definition.code ≠ String.singleton scalar.letter) ∧
        reason = .unknownType definition.code := by
  unfold ofDefinition
  cases found : Scalar.ofCode? definition.code with
  | none =>
      have unknown (scalar : Scalar) : definition.code ≠ String.singleton scalar.letter := by
        intro code
        rw [Scalar.ofCode?_eq_some_iff.mpr code] at found
        exact Option.some_ne_none scalar found
      simp [unknown, eq_comm]
  | some scalar =>
      refine iff_of_false (by simp) fun rejected => ?_
      exact rejected.1 scalar (Scalar.ofCode?_eq_some_iff.mp found)

theorem value_read_eq_error_iff {line : String} {rejection : Rejection} :
    (read line).value = .error rejection ↔
      ∃ reason, Rejects line reason ∧ rejection = .ofLine line reason := by
  unfold read
  cases ofLine : Definition.ofLine? line with
  | none =>
      constructor
      · intro rejected
        exact ⟨.grammar, .grammar ofLine, (Except.error.inj rejected).symm⟩
      · rintro ⟨reason, rejects, rfl⟩
        cases rejects with
        | grammar unread => rfl
        | unknownType read unknown => simp [ofLine] at read
  | some definition =>
      cases meant : ofDefinition definition with
      | error reason =>
          obtain ⟨unknown, rfl⟩ := ofDefinition_eq_error_iff.mp meant
          constructor
          · intro rejected
            exact ⟨_, .unknownType ofLine unknown, by simpa [meant, eq_comm] using rejected⟩
          · rintro ⟨reason, rejects, rfl⟩
            cases rejects with
            | grammar unread => simp [ofLine] at unread
            | unknownType read unknown =>
                obtain rfl := Option.some.inj (ofLine.symm.trans read)
                simp [meant]
      | ok branch =>
          refine iff_of_false (by simp [meant]) ?_
          rintro ⟨reason, rejects, -⟩
          cases rejects with
          | grammar unread => simp [ofLine] at unread
          | unknownType read unknown =>
              obtain rfl := Option.some.inj (ofLine.symm.trans read)
              obtain ⟨scalar, code, -⟩ := ofDefinition_eq_ok_iff.mp meant
              exact unknown scalar code

end Branch

namespace Source

/-- The lines that are not blank, with their numbers from a first number on. -/
def numbered (lines : List String) (first : Nat) : List (String × Nat) :=
  (lines.zipIdx first).filter fun (line, _) => line != ""

theorem numbered_blank (lines : List String) (first : Nat) :
    numbered ("" :: lines) first = numbered lines (first + 1) := by
  simp [numbered]

theorem numbered_cons {line : String} (notBlank : line ≠ "") (lines : List String) (first : Nat) :
    numbered (line :: lines) first = (line, first) :: numbered lines (first + 1) := by
  simp [numbered, notBlank]

theorem value_readEntries_of_error {line : String} {rejection : Rejection}
    (rejected : (Branch.read line).value = .error rejection) (number : Nat)
    (rest : List (String × Nat)) :
    (readEntries ((line, number) :: rest)).value = .error (.source number rejection.text) := by
  simp [readEntries, rejected]

theorem value_readEntries_of_ok {line : String} {branch : Branch}
    (accepted : (Branch.read line).value = .ok branch) (number : Nat)
    (rest : List (String × Nat)) :
    (readEntries ((line, number) :: rest)).value =
      (readEntries rest).value.map (branch :: ·) := by
  simp [readEntries, accepted]

/-- All lines that are not blank are accepted, and each gives its branch. -/
theorem value_readEntries_eq_ok_iff {lines : List String} {first : Nat} {branches : List Branch} :
    (readEntries (numbered lines first)).value = .ok branches ↔
      (lines.filter (· != "")).map (fun line => (Branch.read line).value) =
        branches.map Except.ok := by
  induction lines generalizing first branches with
  | nil => cases branches <;> simp [numbered, readEntries]
  | cons line lines ih =>
      by_cases blank : line = ""
      · subst blank
        rw [numbered_blank, ih]
        simp
      · rw [numbered_cons blank, List.filter_cons_of_pos (by simpa using blank), List.map_cons]
        cases read : (Branch.read line).value with
        | error rejection =>
            rw [value_readEntries_of_error read]
            cases branches <;> simp
        | ok branch =>
            rw [value_readEntries_of_ok read]
            cases branches with
            | nil =>
                cases (readEntries (numbered lines (first + 1))).value <;> simp [Except.map]
            | cons head branches =>
                rw [List.map_cons, List.cons.injEq, ← ih]
                cases (readEntries (numbered lines (first + 1))).value <;> simp [Except.map]

/-- The first line that is rejected has only blank and accepted lines before
it. -/
def FirstRejected (lines before : List String) (line : String) (reason : Reason) : Prop :=
  ∃ after, lines = before ++ line :: after ∧ line ≠ "" ∧ Branch.Rejects line reason ∧
    ∀ earlier ∈ before, earlier = "" ∨ ∃ branch, (Branch.read earlier).value = .ok branch

theorem firstRejected_cons {head : String} {lines before : List String} {line : String}
    {reason : Reason} (passed : head = "" ∨ ∃ branch, (Branch.read head).value = .ok branch) :
    FirstRejected (head :: lines) before line reason ↔
      ∃ others, before = head :: others ∧ FirstRejected lines others line reason := by
  constructor
  · rintro ⟨after, lines_eq, notBlank, rejects, accepted⟩
    cases before with
    | nil =>
        obtain ⟨rfl, -⟩ := List.cons.inj lines_eq
        rcases passed with blank | ⟨branch, read⟩
        · exact absurd blank notBlank
        · have rejected := Branch.value_read_eq_error_iff.mpr ⟨reason, rejects, rfl⟩
          rw [read] at rejected
          cases rejected
    | cons other others =>
        obtain ⟨rfl, rfl⟩ := List.cons.inj lines_eq
        exact ⟨others, rfl, after, rfl, notBlank, rejects,
          fun earlier member => accepted earlier (List.mem_cons_of_mem head member)⟩
  · rintro ⟨others, rfl, after, rfl, notBlank, rejects, accepted⟩
    exact ⟨after, rfl, notBlank, rejects, List.forall_mem_cons.mpr ⟨passed, accepted⟩⟩

theorem firstRejected_head {head : String} {lines before : List String} {line : String}
    {cause reason : Reason} (notBlank : head ≠ "") (rejects : Branch.Rejects head cause) :
    FirstRejected (head :: lines) before line reason ↔
      before = [] ∧ line = head ∧ reason = cause := by
  have read := Branch.value_read_eq_error_iff.mpr ⟨cause, rejects, rfl⟩
  constructor
  · rintro ⟨after, lines_eq, -, rejectsLine, accepted⟩
    cases before with
    | nil =>
        obtain ⟨rfl, -⟩ := List.cons.inj lines_eq
        exact ⟨rfl, rfl, rejectsLine.unique rejects⟩
    | cons other others =>
        obtain ⟨rfl, -⟩ := List.cons.inj lines_eq
        rcases accepted head List.mem_cons_self with blank | ⟨branch, ok⟩
        · exact absurd blank notBlank
        · rw [ok] at read
          cases read
  · rintro ⟨rfl, rfl, rfl⟩
    exact ⟨lines, rfl, notBlank, rejects, by simp⟩

theorem value_readEntries_eq_error_iff {lines : List String} {first : Nat} {failure : Failure} :
    (readEntries (numbered lines first)).value = .error failure ↔
      ∃ before line reason, FirstRejected lines before line reason ∧
        failure = .source (first + before.length) (Rejection.ofLine line reason).text := by
  induction lines generalizing first with
  | nil => simp [numbered, readEntries, FirstRejected]
  | cons head lines ih =>
      have passOver (passed : head = "" ∨ ∃ branch, (Branch.read head).value = .ok branch) :
          (∃ before line reason, FirstRejected (head :: lines) before line reason ∧
            failure = .source (first + before.length) (Rejection.ofLine line reason).text) ↔
          ∃ before line reason, FirstRejected lines before line reason ∧
            failure = .source (first + 1 + before.length) (Rejection.ofLine line reason).text := by
        simp only [firstRejected_cons passed]
        constructor
        · rintro ⟨_, line, reason, ⟨others, rfl, rejected⟩, rfl⟩
          refine ⟨others, line, reason, rejected, ?_⟩
          rw [List.length_cons, Nat.add_assoc, Nat.add_comm 1]
        · rintro ⟨others, line, reason, rejected, rfl⟩
          refine ⟨head :: others, line, reason, ⟨others, rfl, rejected⟩, ?_⟩
          rw [List.length_cons, Nat.add_assoc, Nat.add_comm 1]
      by_cases blank : head = ""
      · rw [passOver (.inl blank), ← ih, blank, numbered_blank]
      · rw [numbered_cons blank]
        cases read : (Branch.read head).value with
        | error rejection =>
            obtain ⟨cause, rejects, rfl⟩ := Branch.value_read_eq_error_iff.mp read
            rw [value_readEntries_of_error read]
            simp only [firstRejected_head blank rejects, Except.error.injEq]
            constructor
            · rintro rfl
              exact ⟨[], head, cause, ⟨rfl, rfl, rfl⟩, rfl⟩
            · rintro ⟨_, _, _, ⟨rfl, rfl, rfl⟩, rfl⟩
              rfl
        | ok branch =>
            rw [passOver (.inr ⟨branch, read⟩), ← ih, value_readEntries_of_ok read]
            cases (readEntries (numbered lines (first + 1))).value <;> simp [Except.map]

theorem entries_eq_numbered (text : String) :
    entries text = numbered ((Text.lines text).map Text.trim) 1 :=
  rfl

theorem text_ofLine_trim (raw : String) (reason : Reason) :
    (Rejection.ofLine (Text.trim raw) reason).text =
      "'" ++ Text.trim raw ++ "' " ++ reason.text := by
  rw [Rejection.text, Rejection.ofLine, Text.trimEnd_trim]

/-- A source is read if all of its lines that are not blank are definitions,
and then each of them gives one branch.  Otherwise the failure is the number of
the first line that is rejected, with the line and the reason. -/
theorem read_until_first_rejected (text : String) :
    (∀ branches : List Branch,
      (read text).value = .ok branches ↔
        (((Text.lines text).map Text.trim).filter (· != "")).map
          (fun line => (Branch.read line).value) = branches.map Except.ok) ∧
      ∀ failure : Failure,
        (read text).value = .error failure ↔
          ∃ before line reason after,
            (Text.lines text).map Text.trim = before ++ line :: after ∧ line ≠ "" ∧
            Branch.Rejects line reason ∧
            (∀ earlier ∈ before,
              earlier = "" ∨ ∃ branch, (Branch.read earlier).value = .ok branch) ∧
            failure = .source (before.length + 1) ("'" ++ line ++ "' " ++ reason.text) := by
  rw [read, entries_eq_numbered]
  refine ⟨fun branches => value_readEntries_eq_ok_iff, fun failure => ?_⟩
  rw [value_readEntries_eq_error_iff]
  have quoted {before after : List String} {line : String}
      (lines_eq : (Text.lines text).map Text.trim = before ++ line :: after) (reason : Reason) :
      (Rejection.ofLine line reason).text = "'" ++ line ++ "' " ++ reason.text := by
    have member : line ∈ (Text.lines text).map Text.trim := by simp [lines_eq]
    obtain ⟨raw, -, rfl⟩ := List.mem_map.mp member
    exact text_ofLine_trim raw reason
  constructor
  · rintro ⟨before, line, reason, ⟨after, lines_eq, notBlank, rejects, accepted⟩, rfl⟩
    refine ⟨before, line, reason, after, lines_eq, notBlank, rejects, accepted, ?_⟩
    rw [quoted lines_eq, Nat.add_comm]
  · rintro ⟨before, line, reason, after, lines_eq, notBlank, rejects, accepted, rfl⟩
    refine ⟨before, line, reason, ⟨after, lines_eq, notBlank, rejects, accepted⟩, ?_⟩
    rw [quoted lines_eq, Nat.add_comm]

end Source

end ColumnCode

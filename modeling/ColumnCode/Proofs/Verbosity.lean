import ColumnCode.Proofs.InvocationOutcome

/-!
# Verbosity

Arguments can ask for more of the log.  Nothing else in a request depends on
how much was asked for: a request that is read with more verbosity from the
start differs from the other one in its verbosity only.  Each level of events
is shown from some verbosity on.
-/

namespace ColumnCode

namespace Invocation

namespace Request

/-- The request with some more verbosity. -/
def louder (request : Request) (count : Nat) : Request :=
  { request with verbosity := request.verbosity + count }

section Steps

variable (request : Request) (count : Nat)

theorem setDefinitions_louder (path : String) :
    (request.louder count).setDefinitions path =
      (request.setDefinitions path).map (·.louder count) := by
  unfold setDefinitions
  rw [apply_ite (Except.map _)]
  rfl

theorem setOption_louder (option : ValueOption) (value : String) :
    (request.louder count).setOption option value =
      (request.setOption option value).map (·.louder count) := by
  unfold setOption
  cases option with
  | role =>
      obtain ⟨definitions?, role?, others⟩ := request
      cases role? <;> cases Role.ofWord? value <;> rfl
  | runtime | capacity | naming =>
      simp only
      rw [apply_ite (Except.map _)]
      rfl

theorem raise_louder (flag : Flag) :
    (request.louder count).raise flag = (request.raise flag).map (·.louder count) := by
  unfold raise
  cases flag with
  | vector =>
      simp only
      rw [apply_ite (Except.map _)]
      rfl
  | verbose => simp only [louder, Except.map, Nat.add_right_comm]
  | version | help => rfl

end Steps

section Reading

variable (count : Nat)

/-- A request with the option that is waiting for its value. -/
def louderPair (read : Request × Option ValueOption) : Request × Option ValueOption :=
  (read.1.louder count, read.2)

/-- Reading may go on after a step when the step and the rest are both the same
but for the verbosity. -/
theorem bind_louder {α β : Type} {first louderFirst : Except Halt α} {raised : α → α}
    {next : α → Except Halt β} {change : β → β} (step : louderFirst = first.map raised)
    (commutes : ∀ value, next (raised value) = (next value).map change) :
    (louderFirst >>= next) = (first >>= next).map change := by
  subst step
  cases first with
  | error halt => rfl
  | ok value => exact commutes value

theorem readLetters_louder (request : Request) (letters : List Char) :
    (request.louder count).readLetters letters =
      (request.readLetters letters).map (louderPair count) := by
  induction request, letters using readLetters.induct with
  | case1 request => rfl
  | case2 request rest ih =>
      rw [readLetters, readLetters]
      exact bind_louder (raise_louder request count .verbose) ih
  | case3 | case4 | case5 => rfl
  | case6 request value =>
      rw [readLetters, readLetters]
      exact bind_louder (setOption_louder request count .role _) fun _ => rfl
  | case7 request value notEmpty notEquals =>
      rw [readLetters, readLetters]
      · exact bind_louder (setOption_louder request count .role _) fun _ => rfl
      all_goals assumption
  | case8 letters request =>
      rw [readLetters, readLetters]
      · rfl
      all_goals assumption

theorem readArgument_louder (request : Request) (argument : String) :
    (request.louder count).readArgument argument =
      (request.readArgument argument).map (louderPair count) := by
  unfold readArgument
  cases formOf argument with
  | separator => rfl
  | plain => exact bind_louder (setDefinitions_louder request count argument) fun _ => rfl
  | short letters => exact readLetters_louder count request letters
  | long name value? =>
      simp only
      cases optionOfName? name with
      | none => rfl
      | some meaning =>
          cases meaning with
          | inl option =>
              cases value? with
              | none => rfl
              | some value =>
                  exact bind_louder (setOption_louder request count option value) fun _ => rfl
          | inr flag =>
              cases value? with
              | none => exact bind_louder (raise_louder request count flag) fun _ => rfl
              | some value => rfl

theorem foldlM_setDefinitions_louder (request : Request) (paths : List String) :
    paths.foldlM setDefinitions (request.louder count) =
      (paths.foldlM setDefinitions request).map (·.louder count) := by
  induction paths generalizing request with
  | nil => rfl
  | cons path paths ih =>
      rw [List.foldlM_cons, List.foldlM_cons]
      exact bind_louder (setDefinitions_louder request count path) ih

/-- Reading all arguments commutes with being louder. -/
theorem readAll_louder (request : Request) (waiting? : Option ValueOption)
    (arguments : List String) :
    readAll (request.louder count) waiting? arguments =
      (readAll request waiting? arguments).map (·.louder count) := by
  induction arguments generalizing request waiting? with
  | nil => cases waiting? <;> rfl
  | cons argument rest ih =>
      unfold readAll
      cases waiting? with
      | some option =>
          simp only
          split_ifs
          · exact bind_louder (setOption_louder request count option argument) (ih · none)
          · rfl
      | none =>
          simp only
          split_ifs
          · exact foldlM_setDefinitions_louder count request rest
          · exact bind_louder (readArgument_louder count request argument) fun read =>
              ih read.1 read.2

/-- Flags in front of the other arguments make the request louder and change
nothing else. -/
theorem readAll_flags (request : Request) (arguments : List String) :
    readAll request none (List.replicate count "-v" ++ arguments) =
      (readAll request none arguments).map (·.louder count) := by
  rw [← readAll_louder]
  induction count generalizing request with
  | zero => rfl
  | succ count ih =>
      have flag : readAll request none ("-v" :: (List.replicate count "-v" ++ arguments)) =
          readAll (request.louder 1) none (List.replicate count "-v" ++ arguments) := rfl
      rw [List.replicate_succ, List.cons_append, flag, ih]
      simp only [louder, Nat.add_assoc, Nat.add_comm 1]

end Reading

end Request

/-- The levels of the events that a verbosity shows. -/
def shownLevels : Nat → List Level
  | 0 => [.warn]
  | 1 => [.warn, .info]
  | 2 => [.warn, .info, .debug]
  | _ => [.warn, .info, .debug, .trace]

/-- The events that a verbosity shows, in their order. -/
def shownEvents (verbosity : Nat) (events : List Event) : List Event :=
  events.filter fun event => event.level ∈ shownLevels verbosity

theorem isShown_eq (verbosity : Nat) (event : Event) :
    event.isShown verbosity = decide (event.level ∈ shownLevels verbosity) := by
  unfold Event.isShown
  cases event.level <;> match verbosity with
    | 0 | 1 | 2 => rfl
    | _ + 3 => simp [Level.verbosity, shownLevels]

theorem shownEvents_sublist {few many : Nat} (le : few ≤ many) (events : List Event) :
    (shownEvents few events).Sublist (shownEvents many events) := by
  apply List.monotone_filter_right
  intro event shown
  rw [← isShown_eq] at shown ⊢
  simp only [Event.isShown, decide_eq_true_eq] at shown ⊢
  omega

end Invocation

end ColumnCode

import ColumnCode.Rejection
import ColumnCode.Target.Basic
import ColumnCode.Text.Quoted

/-!
# Events

Reading and generating report what they do as events.  A computation that
reports is a value together with the list of its events, in order, so nothing
is printed before the outermost layer decides to show it.
-/

namespace ColumnCode

/-- Something that happened while reading definitions or generating code. -/
inductive Event where
  | unknownModifier (branch : String) (letter : Char)
  | accepted (line : Nat) (branch : String)
  | rejected (line : Nat) (reason : Reason)
  | parsed (file : String) (branches : Nat) (role : Role)
  | generating (operation : Operation) (role : Role) (branches : Nat)
  | unterminatedBlock
  deriving DecidableEq, Repr

/-- How much attention an event deserves, most first. -/
inductive Level where
  | warn
  | info
  | debug
  | trace
  deriving DecidableEq, Repr

namespace Level

def label : Level → String
  | warn => "WARN"
  | info => "INFO"
  | debug => "DEBUG"
  | trace => "TRACE"

def verbosity : Level → Nat
  | warn => 0
  | info => 1
  | debug => 2
  | trace => 3

end Level

/-- A detail of an event: a number, a text shown as it is, or a text shown in
quotes. -/
inductive Detail where
  | number (value : Nat)
  | plain (text : String)
  | quoted (text : String)
  deriving DecidableEq, Repr

def Detail.text : Detail → String
  | number value => toString value
  | plain text => text
  | quoted text => Text.quote text

namespace Event

def level : Event → Level
  | unknownModifier .. => .warn
  | accepted .. => .debug
  | rejected .. => .debug
  | parsed .. => .info
  | generating .. => .trace
  | unterminatedBlock => .warn

def reporter : Event → String
  | unknownModifier .. => "branchgen::dsl::parser"
  | accepted .. => "branchgen::dsl::parser"
  | rejected .. => "branchgen::dsl::parser"
  | parsed .. => "branchgen"
  | generating .. => "branchgen::codegen::emitter"
  | unterminatedBlock => "branchgen::dsl::naming"

def message : Event → String
  | unknownModifier .. => "ignoring unknown modifier"
  | accepted .. => "accepted branch definition"
  | rejected .. => "rejected branch definition"
  | parsed .. => "parsed definitions"
  | generating .. => "emitting"
  | unterminatedBlock => "naming block ended without a terminator line"

/-- The details of the event with their names, in the order of a log line. -/
def details : Event → List (String × Detail)
  | unknownModifier branch letter =>
      [("branch", .quoted branch), ("modifier", .plain (String.singleton letter))]
  | accepted line branch => [("line", .number line), ("branch", .quoted branch)]
  | rejected line reason => [("line", .number line), ("reason", .plain reason.text)]
  | parsed file branches role =>
      [("file", .plain file), ("branches", .number branches), ("role", .plain role.label)]
  | generating operation role branches =>
      [("operation", .plain operation.label), ("role", .plain role.label),
        ("branches", .number branches)]
  | unterminatedBlock => []

/-- The line that a log shows for the event. -/
def logLine (event : Event) : String :=
  event.level.label ++ " " ++ event.reporter ++ ": " ++ event.message ++
    String.join (event.details.map fun (name, detail) => " " ++ name ++ "=" ++ detail.text)

def isShown (verbosity : Nat) (event : Event) : Bool :=
  event.level.verbosity ≤ verbosity

end Event

/-- A value together with the events reported while it was computed. -/
structure Logged (α : Type) where
  events : List Event
  value : α

namespace Logged

instance : Monad Logged where
  pure value := ⟨[], value⟩
  bind first next :=
    let second := next first.value
    ⟨first.events ++ second.events, second.value⟩

def report (events : List Event) : Logged Unit :=
  ⟨events, ()⟩

@[simp]
theorem events_pure {α : Type} (value : α) : (pure value : Logged α).events = [] :=
  rfl

@[simp]
theorem value_pure {α : Type} (value : α) : (pure value : Logged α).value = value :=
  rfl

@[simp]
theorem events_bind {α β : Type} (first : Logged α) (next : α → Logged β) :
    (first >>= next).events = first.events ++ (next first.value).events :=
  rfl

@[simp]
theorem value_bind {α β : Type} (first : Logged α) (next : α → Logged β) :
    (first >>= next).value = (next first.value).value :=
  rfl

/-- If what a step reports does not depend on what was done before, a fold
reports it for one element after the other. -/
theorem events_foldlM {α β : Type} {step : β → α → Logged β} {told : α → List Event}
    (tells : ∀ state element, (step state element).events = told element) (elements : List α)
    (state : β) : (elements.foldlM step state).events = elements.flatMap told := by
  induction elements generalizing state with
  | nil => rfl
  | cons element elements ih =>
      rw [List.foldlM_cons, events_bind, tells, ih, List.flatMap_cons]

theorem value_foldlM {α β : Type} (step : β → α → Logged β) (elements : List α) (state : β) :
    (elements.foldlM step state).value =
      elements.foldl (fun state element => (step state element).value) state := by
  induction elements generalizing state with
  | nil => rfl
  | cons element elements ih => rw [List.foldlM_cons, value_bind, ih, List.foldl_cons]

end Logged

end ColumnCode

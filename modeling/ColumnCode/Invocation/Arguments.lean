import ColumnCode.Target.Code

/-!
# Arguments

The command line takes one path of definitions and some options.  Arguments are
read from left to right, and the first one that asks for the version or the
help, or that is wrong, ends the reading.
-/

namespace ColumnCode

namespace Invocation

/-- Why the arguments describe no run. -/
inductive Halt where
  | misuse
  | version
  | help
  deriving DecidableEq, Repr

inductive ValueOption where
  | role
  | runtime
  | capacity
  | naming
  deriving DecidableEq, Repr

inductive Flag where
  | vector
  | verbose
  | version
  | help
  deriving DecidableEq, Repr

/-- What the arguments have asked for so far. -/
structure Request where
  definitions? : Option String := none
  role? : Option Role := none
  runtime? : Option String := none
  capacity? : Option String := none
  naming? : Option String := none
  vector : Bool := false
  verbosity : Nat := 0
  deriving DecidableEq, Repr

structure Settings where
  definitions : String
  target : Target
  naming? : Option String
  verbosity : Nat
  deriving DecidableEq, Repr

/-- How an argument looks outside of the value of an option. -/
inductive Form where
  | separator
  | long (name : List Char) (value? : Option String)
  | short (letters : List Char)
  | plain
  deriving DecidableEq, Repr

/-- The form of an argument.  A single dash is an ordinary text. -/
def formOf (argument : String) : Form :=
  match argument.toList with
  | ['-', '-'] => .separator
  | '-' :: '-' :: body =>
      match body.dropWhile (· != '=') with
      | _ :: value => .long (body.takeWhile (· != '=')) (some (String.ofList value))
      | [] => .long body none
  | '-' :: letter :: letters => .short (letter :: letters)
  | _ => .plain

def optionOfName? (name : List Char) : Option (ValueOption ⊕ Flag) :=
  match String.ofList name with
  | "role" => some (.inl .role)
  | "namespace" => some (.inl .runtime)
  | "capacity" => some (.inl .capacity)
  | "naming" => some (.inl .naming)
  | "vector" => some (.inr .vector)
  | "verbose" => some (.inr .verbose)
  | "version" => some (.inr .version)
  | "help" => some (.inr .help)
  | _ => none

namespace Request

/-- Set the path of the definitions, once and not to an empty path. -/
def setDefinitions (request : Request) (path : String) : Except Halt Request :=
  if request.definitions?.isSome || path = "" then
    .error .misuse
  else
    .ok { request with definitions? := some path }

/-- Give an option its value, once.  A role must be one of the known words, and
the path of a naming file is not empty. -/
def setOption (request : Request) (option : ValueOption) (value : String) :
    Except Halt Request :=
  match option with
  | .role =>
      match request.role?, Role.ofWord? value with
      | none, some role => .ok { request with role? := some role }
      | _, _ => .error .misuse
  | .runtime =>
      if request.runtime?.isSome then .error .misuse
      else .ok { request with runtime? := some value }
  | .capacity =>
      if request.capacity?.isSome then .error .misuse
      else .ok { request with capacity? := some value }
  | .naming =>
      if request.naming?.isSome || value = "" then .error .misuse
      else .ok { request with naming? := some value }

/-- Raise a flag.  Only verbosity can be asked for repeatedly. -/
def raise (request : Request) (flag : Flag) : Except Halt Request :=
  match flag with
  | .vector =>
      if request.vector then .error .misuse else .ok { request with vector := true }
  | .verbose => .ok { request with verbosity := request.verbosity + 1 }
  | .version => .error .version
  | .help => .error .help

/-- Read the letters of a short argument.  The letter of an option with a value
takes the rest of the argument as its value, behind an equals sign or not, or
else waits for the next argument. -/
def readLetters (request : Request) :
    List Char → Except Halt (Request × Option ValueOption)
  | [] => .ok (request, none)
  | 'v' :: rest => do readLetters (← request.raise .verbose) rest
  | 'V' :: _ => .error .version
  | 'h' :: _ => .error .help
  | ['r'] => .ok (request, some .role)
  | 'r' :: '=' :: value => do return (← request.setOption .role (String.ofList value), none)
  | 'r' :: value => do return (← request.setOption .role (String.ofList value), none)
  | _ => .error .misuse

/-- Read an argument that is not the value of the option before it. -/
def readArgument (request : Request) (argument : String) :
    Except Halt (Request × Option ValueOption) :=
  match formOf argument with
  | .separator => .ok (request, none)
  | .plain => do return (← request.setDefinitions argument, none)
  | .short letters => request.readLetters letters
  | .long name value? =>
      match optionOfName? name, value? with
      | some (.inl option), some value => do return (← request.setOption option value, none)
      | some (.inl option), none => .ok (request, some option)
      | some (.inr flag), none => do return (← request.raise flag, none)
      | _, _ => .error .misuse

/-- Read arguments.  An option may be waiting for its value, which must not
look like an option itself.  Behind a separator all arguments are paths. -/
def readAll (request : Request) (waiting? : Option ValueOption) :
    List String → Except Halt Request
  | [] => if waiting?.isSome then .error .misuse else .ok request
  | argument :: rest =>
      match waiting? with
      | some option =>
          if formOf argument = .plain then do
            readAll (← request.setOption option argument) none rest
          else
            .error .misuse
      | none =>
          if formOf argument = .separator then
            rest.foldlM setDefinitions request
          else do
            let (request, waiting?) ← request.readArgument argument
            readAll request waiting? rest

/-- The settings of a complete request.  What was not asked for has its usual
value. -/
def settings (request : Request) : Except Halt Settings :=
  match request.definitions? with
  | none => .error .misuse
  | some definitions => .ok {
      definitions := definitions
      target := {
        role := request.role?.getD .storage
        backing := .ofVectorChoice request.vector
        vocabulary := {
          runtime := request.runtime?.getD Vocabulary.standard.runtime
          capacity := request.capacity?.getD Vocabulary.standard.capacity
        }
      }
      naming? := request.naming?
      verbosity := request.verbosity
    }

end Request

def settingsOf (arguments : List String) : Except Halt Settings := do
  (← Request.readAll {} none arguments).settings

end Invocation

end ColumnCode

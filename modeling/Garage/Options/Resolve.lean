import Garage.Options.Parse

/-!
Settling every option of a command: what the command line gives comes first, then the environment, then
the default. A variable that the command line overrides is never judged.
-/

namespace Garage.Options

/-- The environment: variables with their values. -/
abbrev Environment := List (String × String)

/-- The options of a command, by name, and its positional arguments. -/
structure Settings where
  values : List (String × String)
  positionals : List String
  deriving DecidableEq, Repr

def Settings.get (s : Settings) (name : String) : String :=
  (s.values.lookup name).getD ""

/-- The value that the environment gives an option that the command line does not. -/
def Switch.fromEnvironment (s : Switch) (given : List (String × String)) (env : Environment) :
    Except Refusal (Option String) :=
  if (given.lookup s.long).isSome then .ok none
  else match env.lookup s.envName with
    | none => .ok none
    | some value =>
      match s.kind.refusal? value with
      | some refusal => .error refusal
      | none => .ok (some value)

/-- The value of an option, given what the environment says. -/
def Switch.value (s : Switch) (given : List (String × String)) (fromEnvironment : Option String) :
    String :=
  ((given.lookup s.long).or (fromEnvironment.or s.default)).getD ""

/-- The value of an option: given, from the environment, or the default. -/
def Switch.resolve (s : Switch) (given : List (String × String)) (env : Environment) :
    Except Refusal String :=
  (s.fromEnvironment given env).map (s.value given)

def resolveAll (given : List (String × String)) (env : Environment) :
    List Switch → Except Refusal (List (String × String))
  | [] => .ok []
  | s :: rest => do
    let value ← s.resolve given env
    .ok ((s.long, value) :: (← resolveAll given env rest))

/-- Reads a command line in an environment. -/
def Command.settings (c : Command) (arguments : List String) (env : Environment) :
    Except Refusal Settings := do
  let reading ← c.read arguments
  let values ← resolveAll reading.given env c.switches
  if reading.positionals.length < c.positionals.length then .error .missingArgument
  else .ok ⟨values, reading.positionals⟩

end Garage.Options

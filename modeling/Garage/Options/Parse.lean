import Garage.Options.Command

/-!
Reading a command line, argument by argument. An option whose value is still to come, or has just come,
is settled when the next option is met, or at the end: only then its value is judged.
-/

namespace Garage.Options

/-- An argument by its form. -/
inductive Token where
  /-- `--`: all that follows is positional. -/
  | escape
  /-- `--name` or `--name=value`. -/
  | long (name : String) (value : Option String)
  | short (letters : List Char)
  /-- Anything else, a lone dash and the empty text included. -/
  | plain
  deriving DecidableEq, Repr

def Token.ofArgument (s : String) : Token :=
  match s.toList with
  | ['-', '-'] => .escape
  | '-' :: '-' :: r =>
    let value := match r.dropWhile (· != '=') with
      | _ :: v => some (String.ofList v)
      | [] => none
    .long (String.ofList (r.takeWhile (· != '='))) value
  | '-' :: c :: r => .short (c :: r)
  | _ => .plain

/-- What has been read of a command line. -/
structure Reading where
  /-- The options given, by name, with their values. -/
  given : List (String × String)
  positionals : List String
  /-- An option that is not settled yet, with its value if it has come. -/
  pending : Option (Switch × Option String)
  trailing : Bool
  deriving Repr

namespace Reading

def start : Reading := ⟨[], [], none, false⟩

/-- Notes an option and its value. An option may be given once, and that is judged before the value. -/
def record (r : Reading) (s : Switch) (value : String) : Except Refusal Reading :=
  if (r.given.lookup s.long).isSome then .error .argumentConflict
  else match s.kind.refusal? value with
    | some refusal => .error refusal
    | none => .ok { r with given := r.given ++ [(s.long, value)] }

/-- Settles the pending option, which must have its value by now. -/
def settle (r : Reading) : Except Refusal Reading :=
  match r.pending with
  | none => .ok r
  | some (_, none) => .error .invalidValue
  | some (s, some value) => { r with pending := none }.record s value

/-- Takes a positional argument, if the command has room for it. -/
def positional (r : Reading) (c : Command) (value : String) : Except Refusal Reading :=
  if r.positionals.length < c.positionals.length then do
    let r ← r.settle
    .ok { r with positionals := r.positionals ++ [value] }
  else .error .unknownArgument

/-- Takes an option that stands without a value: a flag is noted, and any other option waits. -/
def openSwitch (r : Reading) (s : Switch) : Except Refusal Reading := do
  let r ← r.settle
  if s.kind = .flag then r.record s "true" else .ok { r with pending := some (s, none) }

def attach (r : Reading) (s : Switch) (value : String) : Except Refusal Reading := do
  (← r.settle).record s value

/-- Takes letters after one dash. The first that takes a value takes all that follows it, one equals sign
apart; if nothing follows, its value is still to come. -/
def letters (r : Reading) (c : Command) : List Char → Except Refusal Reading
  | [] => .ok r
  | letter :: rest =>
    match c.short? letter with
    | none => .error .unknownArgument
    | some .help => do
      let _ ← r.settle
      .error (.help false)
    | some (.switch s) =>
      if s.kind = .flag then do letters (← r.openSwitch s) c rest
      else match rest with
        | [] => r.openSwitch s
        | '=' :: value => r.attach s (String.ofList value)
        | value => r.attach s (String.ofList value)

def take (r : Reading) (c : Command) (argument : String) : Except Refusal Reading :=
  if r.trailing then r.positional c argument
  else match Token.ofArgument argument with
    | .escape => .ok { r with trailing := true }
    | .long name value =>
      match c.long? name, value with
      | none, _ => .error .unknownArgument
      | some .help, some _ => .error .tooManyValues
      | some .help, none => do
        let _ ← r.settle
        .error (.help true)
      | some (.switch s), none => r.openSwitch s
      | some (.switch s), some value =>
        if s.kind = .flag then .error .tooManyValues else r.attach s value
    | .short cs => r.letters c cs
    | .plain =>
      match r.pending with
      | some (s, none) => .ok { r with pending := some (s, some argument) }
      | _ => r.positional c argument

end Reading

/-- Reads a command line: the options given and the positional arguments. -/
def Command.read (c : Command) (arguments : List String) : Except Refusal Reading := do
  (← arguments.foldlM (fun r a => r.take c a) Reading.start).settle

end Garage.Options

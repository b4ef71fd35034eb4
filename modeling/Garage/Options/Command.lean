import Garage.Text.Digit

/-! What a command takes on its command line: options and positional arguments. -/

namespace Garage.Options

/-- Why arguments are refused. -/
inductive Refusal where
  /-- Help was asked for, in its long form or its short one. -/
  | help (long : Bool)
  | unknownArgument
  /-- A value is missing, or is not one of those allowed. -/
  | invalidValue
  /-- A value is not of its option's kind. -/
  | valueValidation
  /-- An option was given twice. -/
  | argumentConflict
  /-- A flag was given a value. -/
  | tooManyValues
  | missingArgument
  deriving DecidableEq, Repr

/-- The exit code of a command that refuses its arguments: asking for help is no fault. -/
def Refusal.exitCode : Refusal → Nat
  | help _ => 0
  | _ => 2

inductive Kind where
  /-- `true` or `false`; on the command line the option itself means `true`. -/
  | flag
  | port
  | text
  deriving DecidableEq, Repr

/-- The port that a text denotes: decimal digits, with a plus sign before them at most, and a value from
1 to 65535. -/
def port? (s : String) : Option Nat :=
  let digits := match s.toList with
    | '+' :: r => r
    | cs => cs
  if digits.isEmpty then none
  else (Text.number? 10 Text.decimal? digits).filter fun n => 1 ≤ n && n ≤ 65535

/-- Whether a value is of this kind; `none` if it is. -/
def Kind.refusal? : Kind → String → Option Refusal
  | flag, s => if s = "true" ∨ s = "false" then none else some .invalidValue
  | port, s => if (port? s).isSome then none else some .valueValidation
  | text, _ => none

structure Switch where
  long : String
  short : Option Char
  kind : Kind
  /-- The environment variable that stands in for the option. -/
  envName : String
  /-- The value if neither is given. -/
  default : Option String
  help : String
  deriving DecidableEq, Repr

structure Positional where
  name : String
  help : String
  deriving DecidableEq, Repr

/-- A command. All its positional arguments are required. -/
structure Command where
  name : String
  about : String
  longAbout : Option String
  positionals : List Positional
  switches : List Switch
  deriving Repr

/-- An option as it is recognised on the command line. -/
inductive Known where
  | switch (s : Switch)
  | help
  deriving DecidableEq, Repr

/-- The option of this name. -/
def Command.long? (c : Command) (name : String) : Option Known :=
  if name = "help" then some .help else (c.switches.find? (·.long == name)).map .switch

/-- The option of this letter. -/
def Command.short? (c : Command) (letter : Char) : Option Known :=
  if letter = 'h' then some .help else (c.switches.find? (·.short == some letter)).map .switch

end Garage.Options

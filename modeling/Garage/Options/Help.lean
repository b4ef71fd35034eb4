import Garage.Options.Resolve
import Garage.Text.Terminal

/-!
Help texts. They are written for a terminal, and control sequences are then taken out, those in the values
of variables with them. The long form puts every explanation on lines of its own; the short one puts it beside the
option, unless the options with their margin take more than two fifths of the line and an explanation does
not fit in what is left.
-/

namespace Garage.Options.Help

/-- The width that help is laid out for. -/
def lineWidth : Nat := 100

structure Entry where
  /-- How the option or argument is written. -/
  label : String
  /-- The same, letters and names in bold. -/
  styled : String
  help : String
  /-- Where its value comes from, in brackets. -/
  sources : List String

def spaces (n : Nat) : String :=
  String.ofList (List.replicate n ' ')

/-- The name of an option's value: the option's name in capitals. -/
def valueName (s : Switch) : String :=
  String.ofList (s.long.toList.map fun c => if c = '-' then '_' else c.toUpper)

def bold (s : String) : String :=
  "\x1b[1m" ++ s ++ "\x1b[0m"

/-- An option with its value; `emphasis` is put on its letter and on its name. A letter that is missing
leaves its place free. -/
def spelling (emphasis : String → String) (s : Switch) : String :=
  let letter := match s.short with
    | some c => emphasis (String.ofList ['-', c]) ++ ", "
    | none => spaces 4
  let value := if s.kind = .flag then "" else " <" ++ valueName s ++ ">"
  letter ++ emphasis ("--" ++ s.long) ++ value

/-- Where the value of an option comes from. The variable is shown with its present value. -/
def sources (env : Environment) (s : Switch) : List String :=
  let value := (env.lookup s.envName).getD ""
  ("[env: " ++ s.envName ++ "=" ++ value ++ "]") ::
    (s.default.toList.map fun d => "[default: " ++ d ++ "]")

def switchEntry (env : Environment) (s : Switch) : Entry :=
  ⟨spelling id s, spelling bold s, s.help, sources env s⟩

def positionalEntry (p : Positional) : Entry :=
  let label := "<" ++ p.name ++ ">"
  ⟨label, label, p.help, []⟩

/-- The entry of help itself. A command with a long form names the other form in each. -/
def helpEntry (c : Command) (long : Bool) : Entry :=
  let other := if c.longAbout.isNone then "" else
    if long then " (see a summary with '-h')" else " (see more with '--help')"
  ⟨"-h, --help", bold "-h" ++ ", " ++ bold "--help", "Print help" ++ other, []⟩

def oneLine (e : Entry) : String :=
  " ".intercalate (e.help :: e.sources)

def widest (entries : List Entry) : Nat :=
  entries.foldl (fun n e => max n e.label.length) 0

/-- The room that is kept free around the labels. -/
def margin : Nat := 4

/-- Whether the explanations of the short form go on lines of their own. -/
def isNarrow (entries : List Entry) : Bool :=
  let taken := widest entries + margin
  taken * 5 > lineWidth * 2 && entries.any fun e => (oneLine e).length > lineWidth - taken

/-- Text in which each line after the first is indented. -/
def indented (n : Nat) (s : String) : String :=
  ("\n" ++ spaces n).intercalate (s.splitOn "\n")

def shortEntries (entries : List Entry) : String :=
  let column := widest entries + 4
  let write (e : Entry) : String :=
    if isNarrow entries then "  " ++ e.styled ++ "\n" ++ spaces 10 ++ indented 10 (oneLine e)
    else "  " ++ e.styled ++ spaces (column - 2 - e.label.length) ++ indented column (oneLine e)
  "\n".intercalate (entries.map write)

def longEntries (entries : List Entry) : String :=
  let write (e : Entry) : String :=
    let paragraphs := e.help :: (if e.sources.isEmpty then [] else ["\n".intercalate e.sources])
    "  " ++ e.styled ++ "\n" ++ spaces 10 ++ indented 10 ("\n\n".intercalate paragraphs)
  "\n\n".intercalate (entries.map write)

def sectionText (title : String) (long : Bool) (entries : List Entry) : String :=
  title ++ ":\n" ++ if long then longEntries entries else shortEntries entries

/-- The help text of a command. Only a command that has a long form shows it. -/
def render (c : Command) (long : Bool) (env : Environment) : String :=
  let long := long && c.longAbout.isSome
  let about := if long then c.longAbout.getD c.about else c.about
  let arguments := c.positionals.map positionalEntry
  let usage := "Usage: " ++ c.name ++ " [OPTIONS]" ++
    String.join (c.positionals.map fun p => " <" ++ p.name ++ ">")
  let options := c.switches.map (switchEntry env) ++ [helpEntry c long]
  let text := "\n\n".intercalate ([about, usage] ++
    (if arguments.isEmpty then [] else [sectionText "Arguments" long arguments]) ++
    [sectionText "Options" long options]) ++ "\n"
  String.ofList (Text.Terminal.shown text.toList)

end Garage.Options.Help

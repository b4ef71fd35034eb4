import Garage.Text.Digit

/-!
Which texts can follow `sqlite://` in a URL: a user, a host and a port up to the first `/`, `?` or `#`,
each of them optional, and then anything. Tabs and line ends are not looked at.
-/

namespace Garage.Location

/-- Splits a text at each `separator`. -/
def splitAt (separator : Char) : List Char → List (List Char)
  | [] => [[]]
  | c :: r =>
    match splitAt separator r with
    | [] => [[c]]
    | part :: parts => if c = separator then [] :: part :: parts else (c :: part) :: parts

/-! ## Addresses in brackets -/

/-- One to four hexadecimal digits. -/
def isGroup (cs : List Char) : Bool :=
  !cs.isEmpty && cs.length ≤ 4 && cs.all fun c => (Text.hex? c).isSome

/-- A number up to 255 without needless zeros. -/
def isOctet (cs : List Char) : Bool :=
  !cs.isEmpty && (cs.length == 1 || cs.head? != some '0') &&
    ((Text.number? 10 Text.decimal? cs).any (· ≤ 255))

/-- Four octets with points between them. -/
def isDotted (cs : List Char) : Bool :=
  let parts := splitAt '.' cs
  parts.length == 4 && parts.all isOctet

/-- The number of groups in a text of groups and colons; the last two may be four octets. -/
def groups? : List (List Char) → Option Nat
  | [] => some 0
  | [last] => if isGroup last then some 1 else if isDotted last then some 2 else none
  | g :: gs => if isGroup g then (groups? gs).map (· + 1) else none

/-- What stands before and after the first `::`. -/
def atGap? : List Char → Option (List Char × List Char)
  | ':' :: ':' :: r => some ([], r)
  | [] => none
  | c :: r => (atGap? r).map fun (before, after) => (c :: before, after)

/-- The number of groups in a text that may be empty. -/
def groupsOf? (cs : List Char) : Option Nat :=
  if cs.isEmpty then some 0 else groups? (splitAt ':' cs)

/-- An address of eight groups; `::` may stand once for one or more of them. -/
def isAddress (cs : List Char) : Bool :=
  match atGap? cs with
  | none => groupsOf? cs == some 8
  | some (before, after) =>
    match groupsOf? before, groupsOf? after with
    | some m, some n => m + n ≤ 7 && !before.contains '.'
    | _, _ => false

/-! ## Host and port -/

/-- A character that no host has. -/
def isForbidden (c : Char) : Bool :=
  c == '\x00' || c == ' ' || c == '<' || c == '>' || c == '@' || c == '[' || c == '\\' || c == ']' ||
    c == '^' || c == '|'

/-- A host: an address in brackets, or a name. -/
def isHost (cs : List Char) : Bool :=
  match cs with
  | '[' :: r => r.getLast? == some ']' && isAddress r.dropLast
  | _ => cs.all fun c => !isForbidden c

/-- Splits at the first colon outside brackets; the colon goes with what follows it. -/
def splitPort (bracketed : Bool) : List Char → List Char × List Char
  | [] => ([], [])
  | c :: r =>
    if c = ':' ∧ !bracketed then ([], c :: r)
    else
      let (host, port) := splitPort (if c = '[' then true else if c = ']' then false else bracketed) r
      (c :: host, port)

/-- A port after its colon: digits up to 65535, none at all, or either with anything after a
backslash. -/
def isPort (cs : List Char) : Bool :=
  let digits := cs.takeWhile fun c => c != '\\'
  digits.isEmpty || (Text.number? 10 Text.decimal? digits).any (· ≤ 65535)

/-- A host with its port, if there is one. A port or a user needs a host. -/
def isHostPort (hasUser : Bool) (cs : List Char) : Bool :=
  match splitPort false cs with
  | (host, []) => isHost host && !(host.isEmpty && hasUser)
  | (host, _ :: port) => isHost host && !host.isEmpty && isPort port

/-- What stands before and after the last `@`. -/
def atLastAt? : List Char → Option (List Char × List Char)
  | [] => none
  | c :: r =>
    match atLastAt? r with
    | some (before, after) => some (c :: before, after)
    | none => if c = '@' then some ([], r) else none

/-- Whether a text can follow `sqlite://` in a URL. A colon alone names no user. -/
def isUrlTail (text : List Char) : Bool :=
  let cs := text.filter fun c => c != '\t' && c != '\n' && c != '\r'
  let authority := cs.takeWhile fun c => c != '/' && c != '?' && c != '#'
  match atLastAt? authority with
  | none => isHostPort false authority
  | some ([], rest) => !rest.isEmpty && isHostPort false rest
  | some (user, rest) => isHostPort (user != [':']) rest

end Garage.Location

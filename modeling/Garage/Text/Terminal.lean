import Garage.Text.Utf8

/-!
Text for a terminal. Some characters in it are not shown but make up control sequences: an escape character
starts one, and what stands after it says where it ends. Here they are taken out.
-/

namespace Garage.Text.Terminal

/-- Where a reader of the text is. -/
inductive Place where
  | text
  | escape
  /-- In a short sequence: an escape character and at least one of the characters up to `/`. -/
  | short
  /-- In a control sequence, which starts with `[`. -/
  | control
  /-- At the start of a string for the device, which starts with `P`. -/
  | device
  | parameters
  | intermediate
  /-- In a string that only the byte 0x9C ends. -/
  | string
  /-- In a command for the operating system, which starts with `]`. -/
  | command
  deriving DecidableEq, Repr

/-- A control character that is shown. -/
def isLayout (c : Char) : Bool :=
  c == '\t' || c == '\n' || c == '\x0c' || c == '\r'

/-- A character that starts or goes on with a sequence but does not end it. -/
def isIntermediate (c : Char) : Bool :=
  ' ' ≤ c && c ≤ '/'

def isFinal (c : Char) : Bool :=
  '@' ≤ c && c ≤ '~'

/-- A string ends at a character that has the byte 0x9C. -/
def endsString (c : Char) : Bool :=
  (Utf8.encode [c]).contains 0x9c

/-- What an escape character and `c` start. -/
def opened (c : Char) : Place :=
  if isIntermediate c then .short
  else if c = '[' then .control
  else if c = ']' then .command
  else if c = 'P' then .device
  else if c = 'X' ∨ c = '^' ∨ c = '_' then .string
  else if '0' ≤ c ∧ c ≤ '~' then .text
  else .escape

/-- Where the reader is after `c`, unless `c` starts a sequence or breaks one off. -/
def Place.next : Place → Char → Place
  | text, _ => text
  | escape, c => opened c
  | short, c => if '0' ≤ c ∧ c ≤ '~' then text else short
  | control, c => if isFinal c then text else control
  | device, c =>
    if isIntermediate c then intermediate else if '0' ≤ c ∧ c ≤ '?' then parameters
    else if isFinal c then string else device
  | parameters, c =>
    if isIntermediate c then intermediate else if '<' ≤ c ∧ c ≤ '~' then string else parameters
  | intermediate, c => if '0' ≤ c ∧ c ≤ '~' then string else intermediate
  | string, c => if endsString c then text else string
  | command, c => if c = '\x07' then text else command

/-- Characters that are laid out, such as the line feed, break off what has not come to a string. -/
def Place.breaksOff : Place → Bool
  | escape => true
  | short => true
  | control => true
  | _ => false

/-- Takes a character: where the reader is afterwards, and whether the character is shown. -/
def step (p : Place) (c : Char) : Place × Bool :=
  if c = '\x18' ∨ c = '\x1a' then (.text, false)
  else if c = '\x1b' then (.escape, false)
  else if p = .text then (.text, isLayout c || (' ' ≤ c && c != '\x7f'))
  else if p.breaksOff && isLayout c then (.text, true)
  else (p.next c, false)

/-- What is shown of a text whose reader is at `p`. -/
def shownFrom (p : Place) : List Char → List Char
  | [] => []
  | c :: r =>
    if (step p c).2 then c :: shownFrom (step p c).1 r else shownFrom (step p c).1 r

def shown (cs : List Char) : List Char :=
  shownFrom .text cs

end Garage.Text.Terminal

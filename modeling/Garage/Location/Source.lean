import Garage.Location.ConnectionString

/-!
What a connection opens. The name in a wish is a file name, unless it starts with `file:`: then it is a URI,
and its options say more. In a URI a byte of zero ends the part that it stands in.
-/

namespace Garage.Location

open Garage.Store (Cause)

/-- How far a connection goes with its file. -/
inductive Reach where
  | readOnly
  /-- It reads and writes a file that is there. -/
  | readWrite
  /-- It creates the file if there is none. -/
  | create
  deriving DecidableEq, Repr

/-- A reach among the others. -/
def Reach.rank : Reach → Nat
  | readOnly => 0
  | readWrite => 1
  | create => 2

/-- How connections to one file keep out of each other's way. -/
inductive Locking where
  /-- By locks on the file. -/
  | shared
  /-- By locks on the file that keep out every other process. -/
  | exclusive
  /-- By a directory beside the file. -/
  | directory
  /-- Not at all. -/
  | none
  deriving DecidableEq, Repr

def Locking.isByFile (l : Locking) : Bool :=
  l = shared || l = exclusive

inductive Layer where
  | files (locking : Locking)
  | memory
  deriving DecidableEq, Repr

def Layer.ofName? : String → Option Layer
  | "unix" => some (files .shared)
  | "unix-excl" => some (files .exclusive)
  | "unix-dotfile" => some (files .directory)
  | "unix-none" => some (files .none)
  | "memdb" => some memory
  | _ => none

/-- What a connection opens. -/
structure Source where
  /-- The name of the file; without one the database is gone when it is closed. -/
  name : String
  reach : Reach
  inMemory : Bool
  immutable : Bool
  layer : Layer
  /-- The file whose permissions a new file gets. -/
  permissionsOf : Option String
  /-- The index of a write-ahead log is only read. -/
  readOnlyIndex : Bool
  deriving DecidableEq, Repr

/-! ## URIs -/

/-- A part of a URI: its escapes are decoded, and a byte of zero ends it. -/
def uriPart (cs : List Char) : String :=
  String.ofList (Text.Utf8.decodeLossy ((Text.Percent.decode cs).takeWhile (· != 0)))

/-- The options of a URI, in order. An option without a name is no option. -/
def uriOptions (cs : List Char) : List (String × String) :=
  (splitAt '&' cs).filterMap fun part =>
    let name := uriPart (part.takeWhile (· != '='))
    if name.isEmpty then none else some (name, uriPart ((part.dropWhile (· != '=')).drop 1))

/-- What follows the authority of a URI. It must be this machine, named or not. -/
def afterAuthority : List Char → Except Cause (List Char)
  | '/' :: '/' :: r =>
    let authority := r.takeWhile (· != '/')
    if authority = [] ∨ authority = "localhost".toList then .ok (r.dropWhile (· != '/'))
    else
      let name := String.ofList authority
      .error (.engine 1 s!"invalid uri authority: {name}")
  | cs => .ok cs

/-- The file name and the options of a URI, given what follows `file:`. A fragment does not count. -/
def readUri (cs : List Char) : Except Cause (String × List (String × String)) := do
  let text := (← afterAuthority cs).takeWhile (· != '#')
  .ok (uriPart (text.takeWhile (· != '?')), uriOptions ((text.dropWhile (· != '?')).drop 1))

/-- What follows `word` at the start of a text. -/
def afterPrefix? (word cs : List Char) : Option (List Char) :=
  if word.isPrefixOf cs then some (cs.drop word.length) else none

/-- The file name and the options of a wish. A wish for a layer or for an immutable file is handed on as
options, with plus signs for the spaces in the layer's name, and then the name is no URI. -/
def Wish.parts (w : Wish) : Except Cause (String × List (String × String)) :=
  let upToZero (cs : List Char) : String := String.ofList (cs.takeWhile (· != '\x00'))
  let options := (if w.immutable then [("immutable", "true")] else []) ++ w.layer.toList.map fun layer =>
    ("vfs", upToZero (layer.toList.map fun c => if c = ' ' then '+' else c))
  if !options.isEmpty then .ok (upToZero w.name.toList, options)
  else if w.name.toList.contains '\x00' then
    .error (.communication "filename passed to SQLite must not contain nul bytes")
  else match afterPrefix? "file:".toList w.name.toList with
    | some r => readUri r
    | none => .ok (w.name, [])

/-! ## Options -/

/-- The number in front of a text: decimal, or hexadecimal after `0x`. -/
def leadingNumber? (cs : List Char) : Option Nat :=
  let number (base : Nat) (digit? : Char → Option Nat) (cs : List Char) : Option Nat :=
    let digits := cs.takeWhile fun c => (digit? c).isSome
    if digits.isEmpty then none else Text.number? base digit? digits
  let hexadecimal := match cs with
    | '0' :: x :: r => if x = 'x' ∨ x = 'X' then number 16 Text.hex? r else none
    | _ => none
  hexadecimal.or (number 10 Text.decimal? cs)

/-- Whether an option's value means yes: a number other than zero, modulo 256, or a word for it. A number
that 31 bits do not hold counts as zero. -/
def isYes (value : String) : Bool :=
  match leadingNumber? value.toList with
  | some n => n < 2147483648 && n % 256 != 0
  | none => ["on", "yes", "true"].contains (String.ofList (value.toList.map Char.toLower))

/-- Whether the first option of this name means yes. -/
def isSet (name : String) (options : List (String × String)) : Bool :=
  (options.lookup name).any isYes

/-- How a file is to be opened: its reach, or no file at all. -/
structure Access where
  reach : Reach
  inMemory : Bool
  deriving DecidableEq, Repr

/-- Takes the option `mode`. A file must not be reached further than before. -/
def Access.setMode (a : Access) (value : String) : Except Cause Access :=
  let reach (r : Reach) : Except Cause Access :=
    if a.inMemory || r.rank ≤ a.reach.rank then .ok ⟨r, false⟩
    else .error (.engine 3 s!"access mode not allowed: {value}")
  match value with
  | "ro" => reach .readOnly
  | "rw" => reach .readWrite
  | "rwc" => reach .create
  | "memory" => .ok ⟨.create, true⟩
  | _ => .error (.engine 1 s!"no such access mode: {value}")

def Access.setAll (a : Access) : List (String × String) → Except Cause Access
  | [] => .ok a
  | ("mode", value) :: rest => do (← a.setMode value).setAll rest
  | ("cache", value) :: rest =>
    if value = "shared" ∨ value = "private" then a.setAll rest
    else .error (.engine 1 s!"no such cache mode: {value}")
  | _ :: rest => a.setAll rest

/-- The access that a wish gives before any option. -/
def Wish.access (w : Wish) : Access :=
  ⟨if w.readOnly then .readOnly else if w.create then .create else .readWrite, w.inMemory⟩

/-- The layer that options name: the last one counts. -/
def layerOf (options : List (String × String)) : Except Cause Layer :=
  match options.reverse.lookup "vfs" with
  | none => .ok (.files .shared)
  | some name =>
    match Layer.ofName? name with
    | none => .error (.engine 1 s!"no such vfs: {name}")
    | some (.files locking) => .ok (.files (if isSet "nolock" options then .none else locking))
    | some .memory => .ok .memory

def Wish.source (w : Wish) : Except Cause Source := do
  let (name, options) ← w.parts
  let access ← w.access.setAll options
  let layer ← layerOf options
  .ok {
    name
    reach := access.reach
    inMemory := access.inMemory
    immutable := isSet "immutable" options
    layer
    permissionsOf := options.lookup "modeof"
    readOnlyIndex := isSet "readonly_shm" options }

def sourceOf (path : String) : Except Cause Source := do
  (← wishOf path).source

end Garage.Location

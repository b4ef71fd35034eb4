import Garage.Location.Url
import Garage.Store.Error
import Garage.Text.Percent

/-!
Connection strings. A path is put into `sqlite://…?mode=rwc` as it is: so it must not make the whole
unreadable as a URL, what follows its first `?` is read as settings, and what stands before is
percent-decoded.
-/

namespace Garage.Location

open Garage.Store (Cause)

/-- What a connection string asks for. -/
structure Wish where
  /-- The name of the database, its escapes decoded. -/
  name : String
  readOnly : Bool
  create : Bool
  inMemory : Bool
  /-- The file does not change while it is open. -/
  immutable : Bool
  layer : Option String
  deriving DecidableEq, Repr

/-- Drops `word` from the front of a text as often as it stands there. -/
def dropWord (word : List Char) (cs : List Char) : List Char :=
  if word.isPrefixOf cs ∧ word ≠ [] then dropWord word (cs.drop word.length) else cs
termination_by cs.length
decreasing_by
  rename_i h
  have hp := (List.isPrefixOf_iff_prefix.1 h.1).length_le
  have hw := List.length_pos_iff.2 h.2
  simp only [List.length_drop]
  omega

/-! ## Settings -/

/-- One side of a setting: plus signs are spaces, and escapes are decoded. -/
def formText (cs : List Char) : String :=
  String.ofList (Text.Utf8.decodeLossy (Text.Percent.decode (cs.map fun c => if c = '+' then ' ' else c)))

/-- The settings of a text, in order: names and values. -/
def formPairs (cs : List Char) : List (String × String) :=
  ((splitAt '&' cs).filter (!·.isEmpty)).map fun part =>
    (formText (part.takeWhile (· != '=')), formText ((part.dropWhile (· != '=')).drop 1))

namespace Wish

/-- A wish for a name, without any setting. -/
def named (name : String) : Wish :=
  ⟨name, false, false, false, false, none⟩

def setMode (w : Wish) : String → Option Wish
  | "ro" => some { w with readOnly := true }
  | "rw" => some w
  | "rwc" => some { w with create := true }
  | "memory" => some { w with inMemory := true }
  | _ => none

/-- Takes a setting whose name is `cache`: it makes no difference. -/
def setCache (w : Wish) : String → Option Wish
  | "private" => some w
  | "shared" => some w
  | _ => none

def setImmutable (w : Wish) : String → Option Wish
  | "true" => some { w with immutable := true }
  | "1" => some { w with immutable := true }
  | "false" => some { w with immutable := false }
  | "0" => some { w with immutable := false }
  | _ => none

/-- Why a setting is refused whose name is known. -/
def unknownValue (name value : String) : Cause :=
  let quotedValue := Text.quoted value
  .configuration s!"unknown value {quotedValue} for \x60{name}\x60"

def set (w : Wish) (name value : String) : Except Cause Wish :=
  let known (result : Option Wish) : Except Cause Wish :=
    match result with
    | some w => .ok w
    | none => .error (unknownValue name value)
  match name with
  | "mode" => known (w.setMode value)
  | "cache" => known (w.setCache value)
  | "immutable" => known (w.setImmutable value)
  | "vfs" => .ok { w with layer := some value }
  | _ => .error (.configuration s!"unknown query parameter \x60{name}\x60 while parsing connection URL")

def setAll (w : Wish) : List (String × String) → Except Cause Wish
  | [] => .ok w
  | (name, value) :: rest =>
    match w.set name value with
    | .ok w => w.setAll rest
    | .error cause => .error cause

end Wish

/-! ## The whole string -/

/-- What follows the scheme in the connection string of a path. -/
def connectionTail (path : String) : List Char :=
  path.toList ++ "?mode=rwc".toList

/-- The name of a database in a connection string, its escapes decoded. -/
def decodeName (cs : List Char) : Except Cause String :=
  let pieces := Text.Utf8.pieces (Text.Percent.decode cs)
  match Text.Utf8.firstFlaw? 0 pieces with
  | some flaw => .error (.configuration flaw.message)
  | none => .ok (String.ofList (pieces.map Text.Piece.shown))

/-- The name that stands for a database in memory. -/
def memoryName : String := ":memory:"

/-- What the connection string of a path asks for. -/
def wishOf (path : String) : Except Cause Wish := do
  if !isUrlTail (connectionTail path) then
    .error (.unreadableUrl ("sqlite://" ++ String.ofList (connectionTail path)))
  else
    let whole := "sqlite://".toList ++ connectionTail path
    let text := dropWord "sqlite:".toList (dropWord "sqlite://".toList whole)
    let database := text.takeWhile (· != '?')
    let wish ← if database = memoryName.toList then .ok { Wish.named memoryName with inMemory := true }
      else (decodeName database).map Wish.named
    wish.setAll (formPairs ((text.dropWhile (· != '?')).drop 1))

end Garage.Location

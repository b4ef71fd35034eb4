import Garage.Decimal.Shortest
import Garage.Details
import Garage.Json.Skip

/-!
Reading vehicle details from JSON: an object with `make` and `model` once each, among any other members,
or an array of the two texts. Faults are raised in reading order; what follows the value is looked at
last.
-/

namespace Garage.Details

open Garage.Text (Piece)
open Garage.Json (skipSpace expect readText skipValue)

/-- A member that details have. -/
inductive Field where
  | make
  | model
  deriving DecidableEq, Repr

def Field.key : Field → String
  | make => "make"
  | model => "model"

def Field.ofKey? (key : List Char) : Option Field :=
  if key = Field.make.key.toList then some .make
  else if key = Field.model.key.toList then some .model
  else none

/-- A JSON value by its type, with what it holds if it is a scalar. -/
inductive Found where
  | null
  | boolean (value : Bool)
  | number (value : Json.Quantity)
  | text (value : String)
  | sequence
  | map

def Found.describe : Found → String
  | null => "null"
  | boolean value => s!"boolean \x60{value}\x60"
  | number (.integer n) => s!"integer \x60{n}\x60"
  | number (.real x) => s!"floating point \x60{Decimal.text x}\x60"
  | text value => "string " ++ Text.quoted value
  | sequence => "sequence"
  | map => "map"

/-- What was wanted where a value of another type stood. -/
inductive Wanted where
  | text
  | details

def Wanted.describe : Wanted → String
  | text => "a string"
  | details => "struct VehicleDetails"

/-- Why a JSON text gives no details. -/
inductive Fault where
  /-- It is not JSON, or ends too early. -/
  | json (fault : Json.Fault)
  | missing (field : Field)
  | duplicate (field : Field)
  | wrongType (found : Found) (wanted : Wanted)
  /-- An array has fewer than two elements. -/
  | wrongLength (length : Nat)

/-- What is wrong with the details, in words; nothing is said about text that is not JSON. -/
def Fault.message? : Fault → Option String
  | json _ => none
  | missing field => some s!"missing field \x60{field.key}\x60"
  | duplicate field => some s!"duplicate field \x60{field.key}\x60"
  | wrongType found wanted => some s!"invalid type: {found.describe}, expected {wanted.describe}"
  | wrongLength n => some s!"invalid length {n}, expected struct VehicleDetails with 2 elements"

/-- A reading that may fail for want of JSON. -/
def ofJsonFault {α : Type} (r : Except Json.Fault α) : Except Fault α :=
  r.mapError .json

/-- Finds out what the value is that comes next. A literal, a number or a text is read for that, and a
container is known by its bracket. -/
def identify : List Piece → Except Json.Fault Found
  | [] => .error .ended
  | .char c :: r =>
    match Json.literalTail? c with
    | some cs => do
      let _ ← Json.expectAll cs r
      .ok (if c = 'n' then .null else .boolean (c = 't'))
    | none =>
      if c = '"' then (readText r).map fun (cs, _) => .text (String.ofList cs)
      else if c = '[' then .ok .sequence
      else if c = '\x7b' then .ok .map
      else do
        let (n, _) ← Json.scanNumber (c = '-') (if c = '-' then r else .char c :: r)
        match n.quantity? with
        | some q => .ok (.number q)
        | none => .error .malformed
  | _ :: _ => .error .malformed

/-- Refuses the value that comes next for its type. -/
def refuse {α : Type} (wanted : Wanted) (s : List Piece) : Except Fault α := do
  let found ← ofJsonFault (identify s)
  .error (.wrongType found wanted)

/-- Reads a value that must be a text. -/
def readValue (s : List Piece) : Except Fault (String × List Piece) :=
  match skipSpace s with
  | .char '"' :: r => ofJsonFault ((readText r).map fun (cs, r) => (String.ofList cs, r))
  | t => refuse .text t

/-! ## Arrays -/

/-- Reads element number `n`; the elements after the first follow a comma. -/
def element (n : Nat) (s : List Piece) : Except Fault (String × List Piece) :=
  match skipSpace s with
  | [] => .error (.json .ended)
  | p :: r =>
    if p = .char ']' then .error (.wrongLength n)
    else if n = 0 then readValue (p :: r)
    else if p = .char ',' then
      match skipSpace r with
      | [] => .error (.json .ended)
      | q :: t => if q = .char ']' then .error (.json .malformed) else readValue (q :: t)
    else .error (.json .malformed)

/-- Reads an array whose bracket has been read. -/
def readArray (s : List Piece) : Except Fault (Details × List Piece) := do
  let (make, r) ← element 0 s
  let (model, r) ← element 1 r
  let r ← ofJsonFault (expect ']' (skipSpace r))
  .ok (⟨make, model⟩, r)

/-! ## Objects -/

/-- The members read so far. -/
structure Seen where
  make : Option String
  model : Option String
  deriving DecidableEq, Repr

namespace Seen

def none : Seen := ⟨.none, .none⟩

def get? (seen : Seen) : Field → Option String
  | .make => seen.make
  | .model => seen.model

def set (seen : Seen) (value : String) : Field → Seen
  | .make => { seen with make := some value }
  | .model => { seen with model := some value }

/-- The details, once both members are there. -/
def details (seen : Seen) : Except Fault Details :=
  match seen.make, seen.model with
  | some make, some model => .ok ⟨make, model⟩
  | .none, _ => .error (.missing .make)
  | _, .none => .error (.missing .model)

end Seen

/-- Reads a key and its quotes. -/
def readKey (s : List Piece) : Except Json.Fault (List Char × List Piece) := do
  readText (← expect '"' (skipSpace s))

/-- Reads a member. A second one of the same name is refused before its value is looked at; the value
of an unknown one is skipped. -/
def readMember (seen : Seen) (s : List Piece) : Except Fault (Seen × List Piece) := do
  let (key, r) ← ofJsonFault (readKey s)
  match Field.ofKey? key with
  | some field =>
    if (seen.get? field).isSome then .error (.duplicate field)
    else do
      let r ← ofJsonFault (expect ':' (skipSpace r))
      let (value, r) ← readValue r
      .ok (seen.set value field, r)
  | none => do
    let r ← ofJsonFault (expect ':' (skipSpace r))
    let r ← ofJsonFault (skipValue r)
    .ok (seen, r)

/-- What stands before a member: nothing before the first, a comma before any other. -/
def separator (first : Bool) (s : List Piece) : Except Json.Fault (List Piece) :=
  if first then .ok s else expect ',' s

@[simp] theorem ofJsonFault_ok {α : Type} (a : α) :
    ofJsonFault (.ok a : Except Json.Fault α) = .ok a := rfl

@[simp] theorem ofJsonFault_error {α : Type} (f : Json.Fault) :
    ofJsonFault (.error f : Except Json.Fault α) = .error (.json f) := rfl

theorem ofJsonFault_eq_ok {α : Type} {r : Except Json.Fault α} {a : α} :
    ofJsonFault r = .ok a ↔ r = .ok a := by
  cases r <;> simp

theorem readKey_shorter {s r : List Piece} {key : List Char} (h : readKey s = .ok (key, r)) :
    r.length < s.length := by
  unfold readKey at h
  cases h1 : expect '"' (skipSpace s) with
  | error e => simp [h1, bind, Except.bind] at h
  | ok t =>
    simp only [h1, bind, Except.bind] at h
    have := Json.expect_shorter h1
    have := Json.readText_shorter h
    have := Json.skipSpace_le s
    omega

theorem refuse_ne_ok {α : Type} {wanted : Wanted} {s : List Piece} {a : α} :
    refuse wanted s ≠ .ok a := by
  unfold refuse
  cases ofJsonFault (identify s) <;> simp [bind, Except.bind]

theorem readValue_shorter {s r : List Piece} {value : String} (h : readValue s = .ok (value, r)) :
    r.length < s.length := by
  have hs := Json.skipSpace_le s
  unfold readValue at h
  split at h
  · next t ht =>
    rw [ofJsonFault_eq_ok] at h
    cases h1 : readText t with
    | error e => simp [h1, Except.map] at h
    | ok q =>
      have := Json.readText_shorter h1
      simp only [h1, Except.map, Except.ok.injEq, Prod.mk.injEq] at h
      obtain ⟨-, rfl⟩ := h
      simp only [ht, List.length_cons] at hs
      omega
  · exact absurd h refuse_ne_ok

theorem readMember_shorter {seen seen' : Seen} {s r : List Piece}
    (h : readMember seen s = .ok (seen', r)) : r.length < s.length := by
  unfold readMember at h
  cases h1 : readKey s with
  | error e => simp [h1, bind, Except.bind] at h
  | ok q =>
    obtain ⟨key, t⟩ := q
    have l1 := readKey_shorter h1
    have l2 := Json.skipSpace_le t
    simp only [h1, ofJsonFault_ok, bind, Except.bind] at h
    cases h2 : expect ':' (skipSpace t) with
    | error e =>
      simp only [h2, ofJsonFault_error] at h
      split at h
      · split at h <;> cases h
      · cases h
    | ok u =>
      have l3 := Json.expect_shorter h2
      simp only [h2, ofJsonFault_ok] at h
      split at h
      · split at h
        · cases h
        · cases h3 : readValue u with
          | error e => simp [h3] at h
          | ok w =>
            have := readValue_shorter h3
            simp only [h3, Except.ok.injEq, Prod.mk.injEq] at h
            obtain ⟨-, rfl⟩ := h
            omega
      · cases h3 : skipValue u with
        | error e => simp [h3] at h
        | ok w =>
          have := Json.skip_le h3
          simp only [h3, ofJsonFault_ok, Except.ok.injEq, Prod.mk.injEq] at h
          obtain ⟨-, rfl⟩ := h
          omega

theorem separator_le {first : Bool} {s r : List Piece} (h : separator first s = .ok r) :
    r.length ≤ s.length := by
  unfold separator at h
  split at h
  · cases h; exact Nat.le_refl _
  · exact Nat.le_of_lt (Json.expect_shorter h)

/-- Reads members up to the closing bracket. -/
def readMembers (first : Bool) (seen : Seen) (s : List Piece) : Except Fault (Details × List Piece) :=
  match _hs : skipSpace s with
  | [] => .error (.json .ended)
  | p :: t =>
    if p = .char '\x7d' then seen.details.map (·, t)
    else match _hp : separator first (p :: t) with
      | .error e => .error (.json e)
      | .ok u =>
        match _hm : readMember seen u with
        | .error e => .error e
        | .ok (seen, r) => readMembers false seen r
termination_by s.length
decreasing_by
  have l1 := Json.skipSpace_le s
  have l2 := separator_le _hp
  have l3 := readMember_shorter _hm
  rw [_hs] at l1
  omega

/-! ## The whole text -/

def readDetails (s : List Piece) : Except Fault (Details × List Piece) :=
  match skipSpace s with
  | .char '[' :: r => readArray r
  | .char '\x7b' :: r => readMembers true .none r
  | t => refuse .details t

/-- Reads details; nothing but white space may follow them. -/
def ofPieces (s : List Piece) : Except Fault Details := do
  let (d, r) ← readDetails s
  if (skipSpace r).isEmpty then .ok d else .error (.json .malformed)

def ofJson (text : String) : Except Fault Details :=
  ofPieces (text.toList.map .char)

def ofJsonBytes (bytes : List UInt8) : Except Fault Details :=
  ofPieces (Text.Utf8.pieces bytes)

end Garage.Details

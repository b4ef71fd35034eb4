import Garage.Json.Text

/-!
JSON numbers: the parts of a numeral, and the quantity that it stands for. A numeral without fraction
and exponent is an integer where 64 bits hold it, and any other a double.
-/

namespace Garage.Json

open Garage.Text (Piece decimal?)

/-- A numeral by its parts. The digits of the whole part are never empty, those of a fraction or an
exponent that is there neither. -/
structure Numeral where
  negative : Bool
  whole : List Nat
  fraction : Option (List Nat)
  /-- Whether a minus sign stands before the exponent, and its digits. -/
  exponent : Option (Bool × List Nat)
  deriving DecidableEq, Repr

/-- The value of a piece that is a decimal digit. -/
def digitOf? : Piece → Option Nat
  | .char c => decimal? c
  | _ => none

/-- The longest run of digits, and what comes after it. -/
def digits : List Piece → List Nat × List Piece
  | [] => ([], [])
  | p :: r =>
    match digitOf? p with
    | some d => let (ds, r) := digits r; (d :: ds, r)
    | none => ([], p :: r)

theorem digits_length (s : List Piece) : (digits s).1.length + (digits s).2.length = s.length := by
  induction s with
  | nil => rfl
  | cons p r ih =>
    unfold digits
    split
    · simp only [List.length_cons]; omega
    · simp

/-- A run of one digit or more. -/
def digits1 (s : List Piece) : Except Fault (List Nat × List Piece) :=
  match digits s with
  | ([], []) => .error .ended
  | ([], _) => .error .malformed
  | (ds, r) => .ok (ds, r)

/-- The whole part: a zero, or digits that do not start with one. -/
def wholePart (s : List Piece) : Except Fault (List Nat × List Piece) := do
  let (ds, r) ← digits1 s
  match ds with
  | 0 :: _ :: _ => .error .malformed
  | _ => .ok (ds, r)

/-- The fraction, if a point comes next. -/
def fractionPart : List Piece → Except Fault (Option (List Nat) × List Piece)
  | .char '.' :: r => (digits1 r).map fun (ds, r) => (some ds, r)
  | s => .ok (none, s)

/-- The sign of an exponent; a missing one is plus. -/
def exponentSign : List Piece → Bool × List Piece
  | .char '-' :: r => (true, r)
  | .char '+' :: r => (false, r)
  | s => (false, s)

/-- The exponent, if its letter comes next. -/
def exponentPart : List Piece → Except Fault (Option (Bool × List Nat) × List Piece)
  | .char c :: r =>
    if c = 'e' ∨ c = 'E' then
      let (negative, r) := exponentSign r
      (digits1 r).map fun (ds, r) => (some (negative, ds), r)
    else .ok (none, .char c :: r)
  | s => .ok (none, s)

/-- Scans a numeral whose sign has been read. -/
def scanNumber (negative : Bool) (s : List Piece) : Except Fault (Numeral × List Piece) := do
  let (whole, r) ← wholePart s
  let (fraction, r) ← fractionPart r
  let (exponent, r) ← exponentPart r
  .ok (⟨negative, whole, fraction, exponent⟩, r)

theorem digits1_shorter {s r : List Piece} {ds : List Nat} (h : digits1 s = .ok (ds, r)) :
    r.length < s.length := by
  have hl := digits_length s
  revert h hl
  unfold digits1
  generalize digits s = p
  obtain ⟨_ | ⟨d, ds'⟩, r'⟩ := p
  · cases r' <;> simp
  · rintro ⟨⟩
    simp only [List.length_cons]
    omega

theorem wholePart_shorter {s r : List Piece} {ds : List Nat} (h : wholePart s = .ok (ds, r)) :
    r.length < s.length := by
  unfold wholePart at h
  cases h1 : digits1 s with
  | error e => simp [h1, bind, Except.bind] at h
  | ok p =>
    have := digits1_shorter h1
    simp only [h1, bind, Except.bind] at h
    split at h
    · cases h
    · cases h; exact this

theorem fractionPart_le {s r : List Piece} {o : Option (List Nat)}
    (h : fractionPart s = .ok (o, r)) : r.length ≤ s.length := by
  unfold fractionPart at h
  split at h
  · next t =>
    cases h1 : digits1 t with
    | error e => simp [h1, Except.map] at h
    | ok p =>
      have := digits1_shorter h1
      simp only [h1, Except.map, Except.ok.injEq, Prod.mk.injEq] at h
      obtain ⟨-, rfl⟩ := h
      simp only [List.length_cons]; omega
  · cases h; exact Nat.le_refl _

theorem exponentSign_le (s : List Piece) : (exponentSign s).2.length ≤ s.length := by
  unfold exponentSign; split <;> simp

theorem exponentPart_le {s r : List Piece} {o : Option (Bool × List Nat)}
    (h : exponentPart s = .ok (o, r)) : r.length ≤ s.length := by
  unfold exponentPart at h
  split at h
  · next c t =>
    split at h
    · have hs := exponentSign_le t
      cases h1 : digits1 (exponentSign t).2 with
      | error e => simp [h1, Except.map] at h
      | ok p =>
        have := digits1_shorter h1
        simp only [h1, Except.map, Except.ok.injEq, Prod.mk.injEq] at h
        obtain ⟨-, rfl⟩ := h
        simp only [List.length_cons]; omega
    · cases h; exact Nat.le_refl _
  · cases h; exact Nat.le_refl _

theorem scanNumber_shorter {negative : Bool} {s r : List Piece} {n : Numeral}
    (h : scanNumber negative s = .ok (n, r)) : r.length < s.length := by
  unfold scanNumber at h
  cases h1 : wholePart s with
  | error e => simp [h1, bind, Except.bind] at h
  | ok p =>
    have l1 := wholePart_shorter h1
    cases h2 : fractionPart p.2 with
    | error e => simp [h1, h2, bind, Except.bind] at h
    | ok q =>
      have l2 := fractionPart_le h2
      cases h3 : exponentPart q.2 with
      | error e => simp [h1, h2, h3, bind, Except.bind] at h
      | ok t =>
        have l3 := exponentPart_le h3
        simp only [h1, h2, h3, bind, Except.bind, Except.ok.injEq, Prod.mk.injEq] at h
        obtain ⟨-, rfl⟩ := h
        omega

/-! ## The quantity -/

/-- What a numeral stands for. -/
inductive Quantity where
  | integer (n : Int)
  | real (x : Float)

/-- Appends digits to a number as long as 64 bits hold it; the digits left over follow. -/
def accumulate (n : Nat) : List Nat → Nat × List Nat
  | [] => (n, [])
  | d :: ds => if n * 10 + d < Nat.pow 2 64 then accumulate (n * 10 + d) ds else (n, d :: ds)

/-- Ten to the power `k`. -/
def powerOfTen (k : Nat) : Float :=
  Float.ofScientific 1 false k

/-- `x * 10 ^ exponent`, in steps that a double can hold; `none` if it is too large for one. -/
def scaled? (x : Float) (exponent : Int) : Option Float :=
  if 0 ≤ exponent then
    if exponent ≤ 308 then
      let y := x * powerOfTen exponent.toNat
      if y.isInf then none else some y
    else if x == 0 then some x else none
  else if -308 ≤ exponent then some (x / powerOfTen (-exponent).toNat)
  else if x == 0 then some x
  else scaled? (x / powerOfTen 308) (exponent + 308)
termination_by (-exponent).toNat

/-- The value of a run of digits. -/
def digitsValue (ds : List Nat) : Nat :=
  ds.foldl (fun n d => n * 10 + d) 0

/-- The quantity of a numeral; `none` if it is too large for a double. Digits past what 64 bits hold
only scale it, and so does the exponent. -/
def Numeral.quantity? (n : Numeral) : Option Quantity :=
  let (a, left) := accumulate 0 n.whole
  let (b, unread) := accumulate a (n.fraction.getD [])
  let sign (x : Float) : Float := if n.negative then -x else x
  if n.fraction.isNone ∧ n.exponent.isNone ∧ left.isEmpty then
    if n.negative then
      if a = 0 ∨ Nat.pow 2 63 < a then some (.real (-a.toUInt64.toFloat)) else some (.integer (-a))
    else some (.integer a)
  else
    let places : Int := left.length - ((n.fraction.getD []).length - unread.length : Nat)
    let significand := b.toUInt64.toFloat
    let exponent : Int := match n.exponent with
      | none => 0
      | some (negative, ds) => if negative then -(digitsValue ds) else digitsValue ds
    if Nat.pow 2 31 ≤ exponent.natAbs then
      if b ≠ 0 ∧ 0 < exponent then none else some (.real (sign 0))
    else (scaled? significand (places + exponent)).map fun x => .real (sign x)

end Garage.Json

import Garage.Text.Blank
import Garage.Text.Digit

/-! When a row was written. -/

namespace Garage.Store

/-- A moment on the calendar. -/
structure Moment where
  year : Int
  month : Nat
  day : Nat
  hour : Nat
  minute : Nat
  /-- Sixty in a leap second. -/
  second : Nat
  fraction : List Char
  deriving DecidableEq, Repr

namespace Moment

/-! ## Writing -/

/-- A number in at least `width` digits. -/
def padded (width n : Nat) : List Char :=
  let digits := Nat.toDigits 10 n
  List.replicate (width - digits.length) '0' ++ digits

/-- A year in at least four digits. -/
def yearText (year : Int) : List Char :=
  if year < 0 then '-' :: padded 4 year.natAbs else padded 4 year.natAbs

/-- A fraction of a second in three, six or nine digits, as many as it needs. -/
def fractionText (digits : List Char) : List Char :=
  let needed := ((digits.take 9).reverse.dropWhile (· == '0')).reverse
  let width := (needed.length + 2) / 3 * 3
  if needed.isEmpty then [] else '.' :: (needed ++ List.replicate (width - needed.length) '0')

/-- A moment written `YYYY-MM-DD HH:MM:SS`, with a fraction if there is one. -/
def text (m : Moment) : String :=
  String.ofList (yearText m.year ++ '-' :: padded 2 m.month ++ '-' :: padded 2 m.day ++
    ' ' :: padded 2 m.hour ++ ':' :: padded 2 m.minute ++ ':' :: padded 2 m.second ++ fractionText m.fraction)

/-! ## Reading -/

def digitsOf (cs : List Char) : List Char :=
  cs.takeWhile fun c => (Text.decimal? c).isSome

/-- The number that up to `width` digits in front of a text make, and what follows them. White space before
it is passed over. -/
def number? (width : Nat) (cs : List Char) : Option (Nat × List Char) :=
  let cs := cs.dropWhile Text.isBlank
  let digits := digitsOf (cs.take width)
  if digits.isEmpty then none
  else (Text.number? 10 Text.decimal? digits).map fun n => (n, cs.drop digits.length)

/-- The year in front of a text. After a sign it may have any number of digits. -/
def year? (cs : List Char) : Option (Int × List Char) :=
  match cs.dropWhile Text.isBlank with
  | '-' :: r => if r.head?.any (fun c => (Text.decimal? c).isSome) then
      (number? r.length r).map fun (n, r) => (-(n : Int), r) else none
  | '+' :: r => if r.head?.any (fun c => (Text.decimal? c).isSome) then
      (number? r.length r).map fun (n, r) => ((n : Int), r) else none
  | cs => (number? 4 cs).map fun (n, r) => ((n : Int), r)

/-- What follows `c`. White space before it is passed over. -/
def after? (c : Char) (cs : List Char) : Option (List Char) :=
  match cs.dropWhile Text.isBlank with
  | d :: r => if d = c then some r else none
  | [] => none

/-- The digits of the fraction in front of a text, and what follows them. -/
def fraction? : List Char → Option (List Char × List Char)
  | '.' :: r =>
    let digits := digitsOf r
    if digits.isEmpty then none else some (digits, r.drop digits.length)
  | cs => some ([], cs)

def daysIn (year : Int) (month : Nat) : Nat :=
  if month = 2 then if year % 4 = 0 ∧ (year % 100 ≠ 0 ∨ year % 400 = 0) then 29 else 28
  else if [4, 6, 9, 11].contains month then 30 else 31

/-- The first year of the calendar. -/
def firstYear : Int := -262143

def isValid (m : Moment) : Bool :=
  firstYear ≤ m.year && 1 ≤ m.month && m.month ≤ 12 && 1 ≤ m.day && m.day ≤ daysIn m.year m.month &&
    m.hour ≤ 23 && m.minute ≤ 59 && m.second ≤ 60

/-- Reads a moment such as `2001-02-03T04:05:06.5`. -/
def ofText? (s : String) : Option Moment := do
  let (year, r) ← year? s.toList
  let (month, r) ← number? 2 (← after? '-' r)
  let (day, r) ← number? 2 (← after? '-' r)
  let (hour, r) ← number? 2 (← after? 'T' r)
  let (minute, r) ← number? 2 (← after? ':' r)
  let (second, r) ← number? 2 (← after? ':' r)
  let (fraction, r) ← fraction? r
  let m : Moment := ⟨year, month, day, hour, minute, second, fraction⟩
  if m.isValid && r.all Text.isBlank then some m else none

end Moment

/-- When a row was written. -/
inductive Timestamp where
  | now
  | moment (m : Moment)
  deriving DecidableEq, Repr

namespace Timestamp

/-- The first year that is not told apart from the present. -/
def presentYear : Int := 2020

/-- The moment that a text gives, or the present if it gives none. -/
def ofText (s : String) : Timestamp :=
  match Moment.ofText? s with
  | some m => if m.year < presentYear then moment m else now
  | none => now

def text : Timestamp → String
  | now => "now"
  | .moment m => m.text

end Timestamp

end Garage.Store

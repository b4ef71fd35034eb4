/-!
The fewest decimal digits that read back to a binary floating-point number, and their layout.

A positive finite number is `m * 2 ^ q`. The decimals that read back to it fill an interval around it,
ends included when `m` is even. For one digit, two digits and so on the two neighbours of the number on
that decimal grid are tried: the first grid with a hit wins, and of two hits the nearer.
-/

namespace Garage.Decimal

/-- A positive binary number `m * 2 ^ q`. `lowest` tells that `m` is the least of its binade, so that
the next number below is half as far away as the next one above. -/
structure Binary where
  m : Nat
  q : Int
  lowest : Bool
  deriving Repr

/-- The magnitude of a finite double from its bits, the sign bit apart; `none` for zero. -/
def Binary.ofBits? (bits : Nat) : Option Binary :=
  let fraction := bits % Nat.pow 2 52
  let exponent : Nat := bits / Nat.pow 2 52 % Nat.pow 2 11
  if exponent = 0 then
    if fraction = 0 then none else some ⟨fraction, -1074, false⟩
  else some ⟨Nat.pow 2 52 + fraction, (exponent : Int) - 1075, fraction = 0 ∧ 1 < exponent⟩

/-- A decimal `digits * 10 ^ exponent`. -/
structure Digits where
  digits : Nat
  exponent : Int
  deriving Repr

/-- The number `a * 2 ^ p * 10 ^ k` as a numerator and a denominator. -/
private def fraction (a : Nat) (p k : Int) : Nat × Nat :=
  (a * Nat.pow 2 p.toNat * Nat.pow 10 k.toNat, Nat.pow 2 (-p).toNat * Nat.pow 10 (-k).toNat)

/-- Whether the decimal reads back to the number: it lies between the midpoints to the number's two
neighbours, and on one of them only if `m` is even. -/
def Binary.readsBack (b : Binary) (d : Digits) : Bool :=
  -- in units of a quarter of the last binary place
  let low := if b.lowest then 4 * b.m - 1 else 4 * b.m - 2
  let (high, scale) := fraction (4 * b.m + 2) (b.q - 2) (-d.exponent)
  let low := (fraction low (b.q - 2) (-d.exponent)).1
  let x := d.digits * scale
  if b.m % 2 = 0 then low ≤ x && x ≤ high else low < x && x < high

/-- The exponent of the leading decimal digit. -/
def Binary.leading (b : Binary) : Int :=
  let guess : Int := (((b.m.log2 : Int) + b.q) * 30103).fdiv 100000
  let below (k : Int) : Bool := let (n, d) := fraction b.m b.q (-k); n < d
  if below guess then guess - 1 else if below (guess + 1) then guess else guess + 1

/-- The neighbour on the grid of `count` digits that reads back and is nearest, if there is one. -/
def Binary.onGrid (b : Binary) (leading : Int) (count : Nat) : Option Digits :=
  let exponent := leading - count + 1
  let (n, d) := fraction b.m b.q (-exponent)
  let lower : Digits := ⟨n / d, exponent⟩
  let upper : Digits := ⟨n / d + 1, exponent⟩
  match b.readsBack lower, b.readsBack upper with
  | true, true =>
    let twice := 2 * (n % d)
    some (if twice < d ∨ (twice = d ∧ n / d % 2 = 0) then lower else upper)
  | true, false => some lower
  | false, true => some upper
  | false, false => none

/-- The fewest digits that read back. Seventeen always suffice. -/
def Binary.shortest (b : Binary) : Digits :=
  let leading := b.leading
  ((List.range 17).findSome? fun i => b.onGrid leading (i + 1)).getD
    ⟨b.m * Nat.pow 2 b.q.toNat, 0⟩

/-- Lays out digits and the exponent of the first of them: positionally from 0.00001 up to sixteen
digits before the point, otherwise with a signed exponent. A whole number keeps `.0`. -/
def layout (digits : List Char) (leading : Int) : List Char :=
  if -5 ≤ leading ∧ leading ≤ 15 then
    if leading < 0 then ['0', '.'] ++ List.replicate (-leading - 1).toNat '0' ++ digits
    else
      let whole := leading.toNat + 1
      let padded := digits ++ List.replicate (whole - digits.length) '0'
      let tail := padded.drop whole
      padded.take whole ++ '.' :: (if tail.isEmpty then ['0'] else tail)
  else
    let tail := digits.drop 1
    digits.take 1 ++ (if tail.isEmpty then [] else '.' :: tail) ++
      'e' :: (if leading < 0 then '-' else '+') :: Nat.toDigits 10 leading.natAbs

/-- A finite double in the fewest digits that read back to it. -/
def text (x : Float) : String :=
  let bits := x.toBits.toNat
  let sign := if bits / Nat.pow 2 63 = 1 then ['-'] else []
  match Binary.ofBits? bits with
  | none => String.ofList (sign ++ ['0', '.', '0'])
  | some b =>
    let d := b.shortest
    let written := Nat.toDigits 10 d.digits
    let kept := (written.reverse.dropWhile (· == '0')).reverse
    String.ofList (sign ++ layout kept (d.exponent + written.length - 1))

end Garage.Decimal

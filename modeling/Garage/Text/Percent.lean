import Garage.Text.Digit
import Garage.Text.Utf8

/-!
Percent coding: `%` and two hexadecimal digits stand for a byte. A `%` that two such digits do not
follow stands for itself, and so does every other byte.
-/

namespace Garage.Text.Percent

/-- The value of a byte that is the ASCII code of a hexadecimal digit. -/
def digit? (b : UInt8) : Option Nat :=
  hex? (Char.ofNat b.toNat)

/-- Replaces each escape by its byte. -/
def decodeBytes : List UInt8 → List UInt8
  | [] => []
  | [a] => [a]
  | [a, b] => [a, b]
  | a :: b :: c :: s =>
    match if a.toNat = 0x25 then digit? b else none, digit? c with
    | some h, some l => UInt8.ofNat (16 * h + l) :: decodeBytes s
    | _, _ => a :: decodeBytes (b :: c :: s)

/-- The bytes that a percent-coded text stands for. -/
def decode (cs : List Char) : List UInt8 :=
  decodeBytes (Utf8.encode cs)

/-- A byte other than a percent sign stands for itself. -/
theorem decodeBytes_cons_of_ne {b : UInt8} (h : b.toNat ≠ 0x25) :
    ∀ s, decodeBytes (b :: s) = b :: decodeBytes s
  | [] => by simp [decodeBytes]
  | [_] => by simp [decodeBytes]
  | _ :: _ :: _ => by simp [decodeBytes, h]

end Garage.Text.Percent

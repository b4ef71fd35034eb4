import Garage.Html.EntityTable
import Garage.Text.Digit

/-!
Character references. A reference is `&`, a name or a number, and `;`. What is no reference that this
module knows stays as it is, its `&` included.
-/

namespace Garage.Html

/-- The character that a name stands for; names are told apart by case. -/
def named? (name : String) : Option Char :=
  [namesUpperAToH, namesUpperIToZ, namesLowerAToF, namesLowerGToM, namesLowerNToS, namesLowerTToZ].findSome?
    fun table => table.lookup name

/-- The character with this code point, unless a reference must not stand for it: there is none for a
surrogate, and a control character below the space is meant only if it is white space. -/
def numbered? (n : Nat) : Option Char :=
  if n = 9 ∨ n = 10 ∨ n = 12 ∨ n = 13 ∨ (32 ≤ n ∧ n.isValidChar) then some (Char.ofNat n) else none

/-- The character that a reference stands for, given what is between its `&` and its `;`. -/
def reference? : List Char → Option Char
  | '#' :: 'x' :: digits => numbers 16 Text.hex? digits
  | '#' :: 'X' :: digits => numbers 16 Text.hex? digits
  | '#' :: digits => numbers 10 Text.decimal? digits
  | name => named? (String.ofList name)
where
  /-- The character that a number stands for. -/
  numbers (base : Nat) (digit? : Char → Option Nat) (digits : List Char) : Option Char :=
    (Text.number? base digit? digits).bind numbered?

/-- Replaces each reference by what it stands for, in one pass from left to right. -/
def decodeReferences : List Char → List Char
  | [] => []
  | c :: r =>
    if c = '&' then
      match _h : r.dropWhile fun c => c != ';' && c != '&' with
      | ';' :: t =>
        match reference? (r.takeWhile fun c => c != ';' && c != '&') with
        | some d => d :: decodeReferences t
        | none => c :: decodeReferences r
      | _ => c :: decodeReferences r
    else c :: decodeReferences r
termination_by cs => cs.length
decreasing_by
  all_goals simp only [List.length_cons]
  · have := (List.dropWhile_sublist (fun c => c != ';' && c != '&') (l := r)).length_le
    rw [_h, List.length_cons] at this
    omega
  all_goals omega

@[simp] theorem decodeReferences_nil : decodeReferences [] = [] := by
  simp [decodeReferences]

theorem decodeReferences_cons_of_ne {c : Char} (h : c ≠ '&') (r : List Char) :
    decodeReferences (c :: r) = c :: decodeReferences r := by
  rw [decodeReferences]
  simp [h]

end Garage.Html

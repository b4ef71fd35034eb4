import Garage.Options.Command
import Garage.Proofs.Text.Decimal

/-!
# Texts that denote a port

A port is written in decimal digits, with a plus sign before them at most. Only the number that they denote has
bounds, their count has none.
-/

namespace Garage.Options

open Garage.Text (Denote number?_eq_some_iff)

/-- The text denotes this port. -/
structure DenotesPort (text : String) (n : Nat) : Prop where
  digits : ∃ digits, digits ≠ [] ∧ Denote digits n ∧
    (text.toList = digits.map Nat.digitChar ∨ text.toList = '+' :: digits.map Nat.digitChar)
  positive : 1 ≤ n
  bounded : n ≤ 65535

/-- What is left of a text without a plus sign before it. -/
def unsigned : List Char → List Char
  | '+' :: r => r
  | cs => cs

theorem unsigned_of_ne {c : Char} (h : c ≠ '+') (r : List Char) : unsigned (c :: r) = c :: r := by
  unfold unsigned
  split
  · next he => exact absurd (List.cons.inj he).1 h
  · rfl

theorem port?_eq (text : String) :
    port? text = if (unsigned text.toList).isEmpty then none
      else (Text.number? 10 Text.decimal? (unsigned text.toList)).filter fun n => 1 ≤ n && n ≤ 65535 :=
  rfl

theorem digitChar_ne_plus {d : Nat} (h : d < 10) : Nat.digitChar d ≠ '+' := by
  interval_cases d <;> decide

/-- A plus sign is not a digit, so it is only taken off where it is a sign. -/
theorem unsigned_eq_iff {cs : List Char} {digits : List Nat} (hne : digits ≠ [])
    (h : ∀ d ∈ digits, d < 10) :
    unsigned cs = digits.map Nat.digitChar ↔
      cs = digits.map Nat.digitChar ∨ cs = '+' :: digits.map Nat.digitChar := by
  obtain ⟨d, digits, rfl⟩ := List.exists_cons_of_ne_nil hne
  have hplus := digitChar_ne_plus (h d List.mem_cons_self)
  rw [List.map_cons]
  constructor
  · intro he
    cases cs with
    | nil => exact absurd he.symm (List.cons_ne_nil _ _)
    | cons c r =>
      by_cases hc : c = '+'
      · subst hc
        exact .inr (congrArg (List.cons '+') he)
      · rw [unsigned_of_ne hc] at he
        exact .inl he
  · rintro (rfl | rfl)
    · exact unsigned_of_ne hplus _
    · rfl

theorem port?_eq_some_iff {text : String} {n : Nat} : port? text = some n ↔ DenotesPort text n := by
  rw [port?_eq]
  constructor
  · intro h
    obtain ⟨hne, h⟩ := Option.ite_none_left_eq_some.mp h
    obtain ⟨hread, hbounds⟩ := Option.filter_eq_some_iff.mp h
    obtain ⟨digits, he, hdigits⟩ := number?_eq_some_iff.mp hread
    rw [Bool.and_eq_true, decide_eq_true_iff, decide_eq_true_iff] at hbounds
    have hdne : digits ≠ [] := by
      rintro rfl
      rw [he] at hne
      exact hne rfl
    exact ⟨⟨digits, hdne, hdigits, (unsigned_eq_iff hdne hdigits.1).mp he⟩, hbounds.1, hbounds.2⟩
  · rintro ⟨⟨digits, hdne, hdigits, he⟩, hpositive, hbounded⟩
    have he := (unsigned_eq_iff hdne hdigits.1).mpr he
    have hread := number?_eq_some_iff.mpr ⟨digits, rfl, hdigits⟩
    have hnonempty : ¬ (digits.map Nat.digitChar).isEmpty := by
      rwa [List.isEmpty_iff, List.map_eq_nil_iff]
    rw [he, if_neg hnonempty, hread, Option.filter_some, if_pos]
    rw [Bool.and_eq_true, decide_eq_true_iff, decide_eq_true_iff]
    exact ⟨hpositive, hbounded⟩

/-- A number beyond 16 bits is not taken for what is left of it in 16 bits. -/
example : port? "+00080" = some 80 ∧ port? "65616" = none := by decide

end Garage.Options

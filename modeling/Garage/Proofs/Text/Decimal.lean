import Garage.Text.Digit
import Mathlib.Data.List.Induction
import Mathlib.Data.Nat.Digits.Defs
import Mathlib.Tactic.IntervalCases

/-!
# Decimal numbers

Digits denote a number however many they are: it has no bound, and zeros before it change nothing.
-/

namespace Garage.Text

theorem decimal?_eq_some_iff {c : Char} {d : Nat} :
    decimal? c = some d ↔ d < 10 ∧ c = Nat.digitChar d := by
  constructor
  · intro h
    have hd := decimal?_lt h
    refine ⟨hd, ?_⟩
    simp only [decimal?, Option.ite_none_right_eq_some, Option.some.injEq] at h
    obtain ⟨⟨hlow, -⟩, hn⟩ := h
    have hlow : 48 ≤ c.toNat := hlow
    have hc : c.toNat = d + 48 := by omega
    rw [← Char.ofNat_toNat c, hc]
    interval_cases d <;> rfl
  · rintro ⟨hd, rfl⟩
    interval_cases d <;> rfl

theorem number?_concat (base : Nat) (digit? : Char → Option Nat) (cs : List Char) (c : Char) :
    number? base digit? (cs ++ [c]) =
      (number? base digit? cs).bind fun n => (digit? c).map (base * n + ·) := by
  rw [number?, List.foldl_append]
  rfl

/-- `digits`, the most significant one first, denote `n`. -/
def Denote (digits : List Nat) (n : Nat) : Prop :=
  (∀ d ∈ digits, d < 10) ∧ Nat.ofDigits 10 digits.reverse = n

theorem denote_nil : Denote [] 0 :=
  ⟨fun _ hd => absurd hd List.not_mem_nil, rfl⟩

theorem denote_concat_iff {digits : List Nat} {d n : Nat} :
    Denote (digits ++ [d]) n ↔ d < 10 ∧ ∃ m, Denote digits m ∧ n = 10 * m + d := by
  have hvalue : Nat.ofDigits 10 (digits ++ [d]).reverse = 10 * Nat.ofDigits 10 digits.reverse + d := by
    rw [List.reverse_append, List.reverse_singleton, List.singleton_append, Nat.ofDigits_cons,
      Nat.add_comm]
  rw [Denote, hvalue, List.forall_mem_append, List.forall_mem_singleton]
  constructor
  · rintro ⟨⟨hdigits, hd⟩, rfl⟩
    exact ⟨hd, _, ⟨hdigits, rfl⟩, rfl⟩
  · rintro ⟨hd, m, ⟨hdigits, rfl⟩, rfl⟩
    exact ⟨⟨hdigits, hd⟩, rfl⟩

/-- A text reads as a number exactly if it consists of digits that denote it, however many they are. -/
theorem number?_eq_some_iff {cs : List Char} {n : Nat} :
    number? 10 decimal? cs = some n ↔ ∃ digits, cs = digits.map Nat.digitChar ∧ Denote digits n := by
  constructor
  · intro h
    induction cs using List.reverseRecOn generalizing n with
    | nil =>
      cases h
      exact ⟨[], rfl, denote_nil⟩
    | append_singleton cs c ih =>
      rw [number?_concat] at h
      obtain ⟨m, hm, h⟩ := Option.bind_eq_some_iff.mp h
      obtain ⟨d, hd, rfl⟩ := Option.map_eq_some_iff.mp h
      obtain ⟨hlt, rfl⟩ := decimal?_eq_some_iff.mp hd
      obtain ⟨digits, rfl, hdigits⟩ := ih hm
      refine ⟨digits ++ [d], ?_, denote_concat_iff.mpr ⟨hlt, m, hdigits, rfl⟩⟩
      rw [List.map_append, List.map_singleton]
  · rintro ⟨digits, rfl, h⟩
    induction digits using List.reverseRecOn generalizing n with
    | nil =>
      rw [← h.2]
      rfl
    | append_singleton digits d ih =>
      obtain ⟨hlt, m, hm, rfl⟩ := denote_concat_iff.mp h
      rw [List.map_append, List.map_singleton, number?_concat, ih hm,
        decimal?_eq_some_iff.mpr ⟨hlt, rfl⟩, Option.bind_some, Option.map_some]

end Garage.Text

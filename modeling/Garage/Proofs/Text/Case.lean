import Garage.Proofs.Text.Trim
import Mathlib.Data.List.Forall2

/-!
# Small letters for capitals

Lower-casing turns the capital letters of ASCII into small ones and leaves every other character as it is.
So two characters are lower-cased alike when they are the same but for the case of an ASCII letter, and
what is blank stays blank.
-/

namespace Garage.Text

/-- The same character, or the capital and the small form of one ASCII letter. -/
def SameButCase (c d : Char) : Prop :=
  c = d ∨ ('A' ≤ c ∧ c ≤ 'Z' ∧ d.toNat = c.toNat + 32) ∨
    ('A' ≤ d ∧ d ≤ 'Z' ∧ c.toNat = d.toNat + 32)

theorem le_iff_toNat {c d : Char} : c ≤ d ↔ c.toNat ≤ d.toNat := Iff.rfl

theorem toNat_toLower (c : Char) :
    c.toLower.toNat = if 65 ≤ c.toNat ∧ c.toNat ≤ 90 then c.toNat + 32 else c.toNat := by
  by_cases h : c.val ≥ 'A'.val ∧ c.val ≤ 'Z'.val
  · have hc : 65 ≤ c.toNat ∧ c.toNat ≤ 90 := h
    have hv : c.toLower.val = c.val + ('a'.val - 'A'.val) := congrArg Char.val (dif_pos h)
    have hn : c.toLower.toNat = (c.toNat + 32) % 2 ^ 32 := congrArg UInt32.toNat hv
    rw [hn, if_pos hc]
    omega
  · have hc : ¬ (65 ≤ c.toNat ∧ c.toNat ≤ 90) := h
    have hv : c.toLower = c := dif_neg h
    rw [hv, if_neg hc]

/-- What is lower-cased alike is the same but for the case. -/
theorem toLower_eq_iff {c d : Char} : c.toLower = d.toLower ↔ SameButCase c d := by
  have hA : 'A'.toNat = 65 := rfl
  have hZ : 'Z'.toNat = 90 := rfl
  rw [SameButCase, ← Char.toNat_inj, toNat_toLower, toNat_toLower, ← Char.toNat_inj]
  simp only [le_iff_toNat, hA, hZ]
  split <;> split <;> omega

theorem toLower_eq_self {c : Char} (h : ¬ (65 ≤ c.toNat ∧ c.toNat ≤ 90)) : c.toLower = c := by
  rw [← Char.toNat_inj, toNat_toLower, if_neg h]

@[simp] theorem toLower_toLower (c : Char) : c.toLower.toLower = c.toLower := by
  apply toLower_eq_self
  rw [toNat_toLower]
  split <;> omega

/-- The texts agree letter by letter but for the case. -/
theorem map_toLower_eq_iff {a b : List Char} :
    a.map Char.toLower = b.map Char.toLower ↔ List.Forall₂ SameButCase a b := by
  rw [← List.forall₂_eq_eq_eq, List.forall₂_map_left_iff, List.forall₂_map_right_iff]
  simp only [toLower_eq_iff]

@[simp] theorem isBlank_toLower (c : Char) : isBlank c.toLower = isBlank c := by
  by_cases h : 65 ≤ c.toNat ∧ c.toNat ≤ 90
  · -- Neither form of a letter is blank.
    have hl := toNat_toLower c
    rw [if_pos h] at hl
    have hs : isBlank c.toLower = false := Bool.eq_false_iff.mpr fun hb => by
      have := toNat_of_isBlank hb
      omega
    have hc : isBlank c = false := Bool.eq_false_iff.mpr fun hb => by
      have := toNat_of_isBlank hb
      omega
    rw [hs, hc]
  · rw [toLower_eq_self h]

theorem IsTrimmed.map_toLower {cs : List Char} (h : IsTrimmed cs) :
    IsTrimmed (cs.map Char.toLower) := by
  constructor
  · intro c hc
    rw [List.head?_map] at hc
    obtain ⟨d, hd, rfl⟩ := Option.map_eq_some_iff.mp hc
    rw [isBlank_toLower, h.1 d hd]
  · intro c hc
    rw [List.getLast?_map] at hc
    obtain ⟨d, hd, rfl⟩ := Option.map_eq_some_iff.mp hc
    rw [isBlank_toLower, h.2 d hd]

end Garage.Text

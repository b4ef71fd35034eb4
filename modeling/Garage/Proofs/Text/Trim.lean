import Garage.Text.Blank
import Mathlib.Data.List.DropRight
import Mathlib.Data.List.TakeWhile

/-!
# Trimmed texts

A text is trimmed when neither of its ends is blank. Trimming gives such a text, and leaves one
that already is as it stands; so trimming twice is trimming once.
-/

namespace Garage.Text

/-- Blank characters lie at the space and below it, or past ASCII. -/
theorem toNat_of_isBlank {c : Char} (h : isBlank c = true) : c.toNat ≤ 32 ∨ 133 ≤ c.toNat := by
  simp only [isBlank, Bool.or_eq_true, Bool.and_eq_true, decide_eq_true_eq, beq_iff_eq,
    or_assoc] at h
  rcases h with ⟨-, h⟩ | rfl | rfl | rfl | rfl | ⟨h, -⟩ | rfl | rfl | rfl | rfl | rfl
  case inl => exact Or.inl (Nat.le_trans h (by decide))
  case inr.inr.inr.inr.inr.inl => exact Or.inr (Nat.le_trans (by decide) h)
  all_goals decide

/-- No blank character stands at either end. -/
def IsTrimmed (cs : List Char) : Prop :=
  (∀ c, cs.head? = some c → isBlank c = false) ∧
    ∀ c, cs.getLast? = some c → isBlank c = false

/-- Where nothing is blank, the ends are not. -/
theorem isTrimmed_of_forall {cs : List Char} (h : ∀ c ∈ cs, isBlank c = false) : IsTrimmed cs :=
  ⟨fun c hc => h c (List.mem_of_head? hc), fun c hc => h c (List.mem_of_getLast? hc)⟩

theorem trim_eq_rdropWhile (cs : List Char) :
    trim cs = (cs.dropWhile isBlank).rdropWhile isBlank := rfl

theorem dropWhile_isBlank_of_head {cs : List Char}
    (h : ∀ c, cs.head? = some c → isBlank c = false) : cs.dropWhile isBlank = cs := by
  cases cs with
  | nil => rfl
  | cons c r => rw [List.dropWhile_cons_of_neg (by rw [h c rfl]; decide)]

/-- A trimmed text has nothing to lose. -/
theorem trim_eq_self {cs : List Char} (h : IsTrimmed cs) : trim cs = cs := by
  rw [trim_eq_rdropWhile, dropWhile_isBlank_of_head h.1, List.rdropWhile_eq_self_iff]
  intro hne
  rw [h.2 _ (List.getLast?_eq_some_getLast hne)]
  decide

theorem isTrimmed_trim (cs : List Char) : IsTrimmed (trim cs) := by
  rw [trim_eq_rdropWhile]
  constructor
  · intro c hc
    -- What the second pass leaves is a prefix of what the first one left, so they begin alike.
    have hp := List.rdropWhile_prefix isBlank (cs.dropWhile isBlank)
    obtain ⟨r, hr⟩ := List.head?_eq_some_iff.mp hc
    obtain ⟨s, hs⟩ := hp
    have hfirst : (cs.dropWhile isBlank).head? = some c := by
      rw [← hs, hr, List.cons_append, List.head?_cons]
    exact head?_dropWhile_isBlank hfirst
  · intro c hc
    have hne : (cs.dropWhile isBlank).rdropWhile isBlank ≠ [] := by
      intro he
      rw [he] at hc
      cases hc
    have hl := List.rdropWhile_last_not isBlank _ hne
    rw [List.getLast?_eq_some_getLast hne] at hc
    rw [Option.some.inj hc] at hl
    exact Bool.eq_false_iff.mpr hl

/-- A trimmed text with blank characters around it is trimmed to what it was. -/
theorem trim_append {w₁ t w₂ : List Char} (ht : IsTrimmed t) (h₁ : ∀ c ∈ w₁, isBlank c = true)
    (h₂ : ∀ c ∈ w₂, isBlank c = true) : trim (w₁ ++ t ++ w₂) = t := by
  rw [trim_eq_rdropWhile, List.append_assoc, List.dropWhile_append_of_pos h₁]
  by_cases he : t = []
  · rw [he, List.nil_append, List.dropWhile_eq_nil_iff.mpr h₂, List.rdropWhile_nil]
  · have hhead : (t ++ w₂).head? = t.head? := List.head?_append_of_ne_nil t he
    have hback : ∀ c ∈ w₂.reverse, isBlank c = true := fun c hc => h₂ c (List.mem_reverse.mp hc)
    have hself := trim_eq_self ht
    rw [trim_eq_rdropWhile, dropWhile_isBlank_of_head ht.1] at hself
    rw [dropWhile_isBlank_of_head (by rw [hhead]; exact ht.1), List.rdropWhile, List.reverse_append,
      List.dropWhile_append_of_pos hback]
    exact hself

/-- What trimming takes off is blank. -/
theorem exists_eq_append_trim (cs : List Char) :
    ∃ w₁ w₂, cs = w₁ ++ trim cs ++ w₂ ∧ (∀ c ∈ w₁, isBlank c = true) ∧
      ∀ c ∈ w₂, isBlank c = true := by
  refine ⟨cs.takeWhile isBlank, (cs.dropWhile isBlank).rtakeWhile isBlank, ?_,
    fun c => List.mem_takeWhile_imp, fun c => List.mem_rtakeWhile_imp⟩
  rw [trim_eq_rdropWhile, List.append_assoc, List.rdropWhile_append_rtakeWhile,
    List.takeWhile_append_dropWhile]

@[simp] theorem trim_trim (cs : List Char) : trim (trim cs) = trim cs :=
  trim_eq_self (isTrimmed_trim cs)

/-- Trimming twice is trimming once. -/
@[simp] theorem trimmed_trimmed (s : String) : trimmed (trimmed s) = trimmed s := by
  rw [trimmed, toList_trimmed, trim_trim, trimmed]

end Garage.Text

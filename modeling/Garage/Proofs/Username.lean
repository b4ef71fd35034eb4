import Garage.Proofs.Text.Case
import Garage.Username
import Mathlib.Data.String.Basic

/-!
# Canonical usernames

`IsCanonical` says which usernames are canonical without saying how they are found. A name has the
canonical form `u` exactly when `u` is its normal form and is canonical; so a canonical username is
its own canonical form, and no other text is.
-/

namespace Garage.Username

/-- One to thirty-two characters, all of them of `[a-z0-9_-]`. -/
structure IsCanonical (u : String) : Prop where
  nonempty : 1 ≤ u.toList.length
  short : u.toList.length ≤ 32
  allowed : ∀ c ∈ u.toList, ('a' ≤ c ∧ c ≤ 'z') ∨ ('0' ≤ c ∧ c ≤ '9') ∨ c = '-' ∨ c = '_'

theorem isAllowed_iff {c : Char} :
    isAllowed c = true ↔ ('a' ≤ c ∧ c ≤ 'z') ∨ ('0' ≤ c ∧ c ≤ '9') ∨ c = '-' ∨ c = '_' := by
  simp only [isAllowed, Bool.or_eq_true, Bool.and_eq_true, decide_eq_true_eq, beq_iff_eq, or_assoc]

/-- The code points of the allowed characters. -/
theorem toNat_of_isAllowed {c : Char} (h : isAllowed c = true) :
    (97 ≤ c.toNat ∧ c.toNat ≤ 122) ∨ (48 ≤ c.toNat ∧ c.toNat ≤ 57) ∨ c.toNat = 45 ∨ c.toNat = 95 := by
  rcases isAllowed_iff.mp h with h | h | rfl | rfl
  · exact Or.inl h
  · exact Or.inr (Or.inl h)
  · exact Or.inr (Or.inr (Or.inl rfl))
  · exact Or.inr (Or.inr (Or.inr rfl))

theorem isBlank_of_isAllowed {c : Char} (h : isAllowed c = true) : Text.isBlank c = false := by
  have hn := toNat_of_isAllowed h
  refine Bool.eq_false_iff.mpr fun hb => ?_
  have hb := Text.toNat_of_isBlank hb
  omega

theorem toLower_of_isAllowed {c : Char} (h : isAllowed c = true) : c.toLower = c := by
  have hn := toNat_of_isAllowed h
  exact Text.toLower_eq_self (by omega)

theorem utf8Size_of_isAllowed {c : Char} (h : isAllowed c = true) : c.utf8Size = 1 := by
  have hn := toNat_of_isAllowed h
  rw [Char.utf8Size_eq_one_iff, UInt32.le_iff_toNat_le]
  show c.toNat ≤ 127
  omega

theorem utf8Len_of_isAllowed {cs : List Char} (h : ∀ c ∈ cs, isAllowed c = true) :
    String.utf8Len cs = cs.length := by
  induction cs with
  | nil => rfl
  | cons c r ih =>
    rw [String.utf8Len_cons, utf8Size_of_isAllowed (h c List.mem_cons_self),
      ih fun d hd => h d (List.mem_cons_of_mem c hd), List.length_cons]

/-- Allowed characters take one byte each. -/
theorem utf8ByteSize_of_isAllowed {u : String} (h : ∀ c ∈ u.toList, isAllowed c = true) :
    u.utf8ByteSize = u.toList.length := by
  rw [← utf8Len_of_isAllowed h, ← String.utf8ByteSize_ofList, String.ofList_toList]

/-- What `canonical` accepts is the canonical normal form. -/
theorem canonical_eq_ok_iff {name u : String} :
    canonical name = .ok u ↔ normalize name = u ∧ IsCanonical u := by
  constructor
  · intro h
    have hn := eq_normalize_of_canonical h
    have ha : ∀ c ∈ u.toList, isAllowed c = true := List.all_eq_true.mp (all_isAllowed_of_canonical h)
    have hsize : u.isEmpty = false ∧ u.utf8ByteSize ≤ maxLength := by
      rw [canonical, ← hn] at h
      split at h
      · cases h
      · next hl => simpa using hl
    rw [utf8ByteSize_of_isAllowed ha] at hsize
    refine ⟨hn.symm, ?_, hsize.2, fun c hc => isAllowed_iff.mp (ha c hc)⟩
    have hne : u ≠ "" := by simpa using hsize.1
    exact List.length_pos_iff.mpr fun he => hne (String.toList_eq_nil_iff.mp he)
  · rintro ⟨rfl, hpos, hshort, ha⟩
    have ha : ∀ c ∈ (normalize name).toList, isAllowed c = true :=
      fun c hc => isAllowed_iff.mpr (ha c hc)
    have hempty : (normalize name).isEmpty = false := by
      refine Bool.eq_false_iff.mpr fun he => ?_
      rw [String.isEmpty_iff.mp he] at hpos
      exact absurd hpos (by decide)
    have hlong : ¬ maxLength < (normalize name).utf8ByteSize := by
      rw [utf8ByteSize_of_isAllowed ha]
      exact Nat.not_lt.mpr hshort
    rw [canonical]
    simp only [hempty, hlong, decide_false, Bool.or_self, Bool.false_eq_true, if_false,
      List.all_eq_true.mpr ha, if_true]

theorem isCanonical_of_canonical {name u : String} (h : canonical name = .ok u) : IsCanonical u :=
  (canonical_eq_ok_iff.mp h).2

/-- A canonical username is its own normal form. -/
theorem normalize_of_isCanonical {u : String} (h : IsCanonical u) : normalize u = u := by
  have ha : ∀ c ∈ u.toList, isAllowed c = true := fun c hc => isAllowed_iff.mpr (h.allowed c hc)
  have ht : Text.trim u.toList = u.toList :=
    Text.trim_eq_self (Text.isTrimmed_of_forall fun c hc => isBlank_of_isAllowed (ha c hc))
  have hl : u.toList.map Char.toLower = u.toList := by
    conv_rhs => rw [← List.map_id u.toList]
    exact List.map_congr_left fun c hc => toLower_of_isAllowed (ha c hc)
  rw [normalize, ht, hl, String.ofList_toList]

theorem canonical_of_isCanonical {u : String} (h : IsCanonical u) : canonical u = .ok u :=
  canonical_eq_ok_iff.mpr ⟨normalize_of_isCanonical h, h⟩

/-- Taking the canonical form twice is taking it once. -/
theorem canonical_canonical {name u : String} (h : canonical name = .ok u) : canonical u = .ok u :=
  canonical_of_isCanonical (isCanonical_of_canonical h)

end Garage.Username

import Garage.Proofs.Registry.Run
import Garage.Proofs.Username
import Garage.Proofs.Web.Dispatch

/-!
# The language of usernames

A name is accepted when it is one to thirty-two letters, digits, hyphens or underscores, with blank
characters around them or not; it is then known by these characters in small letters. Any other name is
turned away: for its length if its normal form has no bytes or too many, and otherwise for a character
in it. So names are known as one user exactly when they are spelt alike but for case and outer blanks.
-/

namespace Garage.Username

open Garage.Text (SameButCase)

/-- What a name is accepted as, or the failure with which it is turned away. -/
def accept (name : String) : Except Failure String :=
  (canonical name).mapError fun fault => .badRequest fault.reason

/-- One to thirty-two characters, all of them of `[A-Za-z0-9_-]`. -/
structure IsCore (core : List Char) : Prop where
  nonempty : 1 ≤ core.length
  short : core.length ≤ 32
  allowed : ∀ c ∈ core, ('A' ≤ c ∧ c ≤ 'Z') ∨ ('a' ≤ c ∧ c ≤ 'z') ∨ ('0' ≤ c ∧ c ≤ '9') ∨
    c = '-' ∨ c = '_'

/-- The name is this core, with blank characters around it or without. -/
def Spells (name : String) (core : List Char) : Prop :=
  ∃ w₁ w₂, name.toList = w₁ ++ core ++ w₂ ∧ (∀ c ∈ w₁, Text.isBlank c = true) ∧
    (∀ c ∈ w₂, Text.isBlank c = true) ∧ IsCore core

/-! ## Cores -/

theorem isAllowed_toLower_iff {c : Char} :
    isAllowed c.toLower = true ↔ ('A' ≤ c ∧ c ≤ 'Z') ∨ ('a' ≤ c ∧ c ≤ 'z') ∨
      ('0' ≤ c ∧ c ≤ '9') ∨ c = '-' ∨ c = '_' := by
  simp only [isAllowed_iff, Text.le_iff_toNat, ← Char.toNat_inj, Text.toNat_toLower, Char.reduceToNat]
  split <;> omega

theorem IsCore.not_isBlank {core : List Char} (h : IsCore core) :
    ∀ c ∈ core, Text.isBlank c = false := by
  intro c hc
  rw [← Text.isBlank_toLower]
  exact isBlank_of_isAllowed (isAllowed_toLower_iff.mpr (h.allowed c hc))

/-- A core is what trimming leaves of the name. -/
theorem spells_iff {name : String} {core : List Char} :
    Spells name core ↔ Text.trim name.toList = core ∧ IsCore core := by
  constructor
  · rintro ⟨w₁, w₂, hn, h₁, h₂, hc⟩
    rw [hn, Text.trim_append (Text.isTrimmed_of_forall hc.not_isBlank) h₁ h₂]
    exact ⟨rfl, hc⟩
  · rintro ⟨rfl, hc⟩
    obtain ⟨w₁, w₂, hn, h₁, h₂⟩ := Text.exists_eq_append_trim name.toList
    exact ⟨w₁, w₂, hn, h₁, h₂, hc⟩

theorem isCanonical_normalize_iff {name : String} :
    IsCanonical (normalize name) ↔ IsCore (Text.trim name.toList) := by
  have hl : (normalize name).toList.length = (Text.trim name.toList).length := by
    rw [toList_normalize, List.length_map]
  have ha : (∀ c ∈ (normalize name).toList, isAllowed c = true) ↔
      ∀ c ∈ Text.trim name.toList, isAllowed c.toLower = true := by
    rw [toList_normalize, List.forall_mem_map]
  constructor
  · rintro ⟨hpos, hshort, hallowed⟩
    rw [hl] at hpos hshort
    have hall := ha.mp fun c hc => isAllowed_iff.mpr (hallowed c hc)
    exact ⟨hpos, hshort, fun c hc => isAllowed_toLower_iff.mp (hall c hc)⟩
  · rintro ⟨hpos, hshort, hallowed⟩
    rw [← hl] at hpos hshort
    have hall := ha.mpr fun c hc => isAllowed_toLower_iff.mpr (hallowed c hc)
    exact ⟨hpos, hshort, fun c hc => isAllowed_iff.mp (hall c hc)⟩

theorem canonical_eq_ok_iff_spells {name u : String} :
    canonical name = .ok u ↔ ∃ core, Spells name core ∧ u.toList = core.map Char.toLower := by
  rw [canonical_eq_ok_iff]
  constructor
  · rintro ⟨rfl, h⟩
    exact ⟨_, spells_iff.mpr ⟨rfl, isCanonical_normalize_iff.mp h⟩, toList_normalize name⟩
  · rintro ⟨core, hs, hu⟩
    obtain ⟨rfl, hc⟩ := spells_iff.mp hs
    rw [← toList_normalize, String.toList_inj] at hu
    rw [hu]
    exact ⟨rfl, isCanonical_normalize_iff.mpr hc⟩

/-! ## Normal forms -/

theorem normalize_normalize (name : String) : normalize (normalize name) = normalize name := by
  have ht := (Text.isTrimmed_trim name.toList).map_toLower
  rw [← String.toList_inj, toList_normalize, toList_normalize, Text.trim_eq_self ht, List.map_map]
  exact List.map_congr_left fun c _ => Text.toLower_toLower c

theorem canonical_normalize (name : String) : canonical (normalize name) = canonical name := by
  rw [canonical, normalize_normalize, ← canonical]

/-! ## Names that are turned away -/

/-- The normal form has no bytes, or more than a username may have. -/
def WrongLength (normal : String) : Prop :=
  normal.utf8ByteSize = 0 ∨ 32 < normal.utf8ByteSize

instance (normal : String) : Decidable (WrongLength normal) :=
  inferInstanceAs (Decidable (_ ∨ _))

theorem wrongLength_iff {normal : String} :
    (normal.isEmpty || maxLength < normal.utf8ByteSize) = true ↔ WrongLength normal := by
  rw [WrongLength, Bool.or_eq_true, decide_eq_true_eq, String.isEmpty_iff,
    String.utf8ByteSize_eq_zero_iff]
  rfl

/-- A name is turned away for its length, or else for its characters. -/
theorem fault_of_canonical {name : String} {fault : Fault} (h : canonical name = .error fault) :
    fault = if WrongLength (normalize name) then .length else .characters (normalize name) := by
  rw [canonical] at h
  split at h
  · next hl =>
    rw [if_pos (wrongLength_iff.mp hl)]
    exact (Except.error.inj h).symm
  · next hl =>
    rw [if_neg fun hw => hl (wrongLength_iff.mpr hw)]
    split at h
    · cases h
    · exact (Except.error.inj h).symm

theorem canonical_of_wrongLength {name : String} (h : WrongLength (normalize name)) :
    canonical name = .error .length := by
  rw [canonical]
  exact if_pos (wrongLength_iff.mpr h)

/-- The words for a name that is turned away. -/
def refusal (normal : String) : String :=
  if WrongLength normal then "username must be 1-32 characters"
  else "invalid characters in username " ++ Text.quoted normal

theorem refusal_eq_iff {normal : String} :
    refusal normal = "username must be 1-32 characters" ↔ WrongLength normal := by
  rw [refusal]
  split
  · next h => exact iff_of_true rfl h
  · next h =>
    refine iff_of_false (fun he => ?_) h
    have hfirst := congrArg (fun s => s.toList.head?) he
    rw [String.toList_append] at hfirst
    cases hfirst

theorem reason_of_canonical {name : String} {fault : Fault} (h : canonical name = .error fault) :
    fault.reason = refusal (normalize name) := by
  rw [fault_of_canonical h, refusal]
  split <;> rfl

/-! ## Acceptance -/

theorem accept_eq_ok_iff {name u : String} : accept name = .ok u ↔ canonical name = .ok u := by
  rw [accept]
  cases canonical name <;> simp [Except.mapError]

theorem accept_of_fault {name : String} {fault : Fault} (h : canonical name = .error fault) :
    accept name = .error (.badRequest (refusal (normalize name))) := by
  rw [← reason_of_canonical h, accept, h]
  rfl

theorem accept_normalize (name : String) : accept (normalize name) = accept name := by
  rw [accept, canonical_normalize, ← accept]

/-- A name is turned away exactly if it has no core. -/
theorem accept_eq_error_iff {name : String} {f : Failure} :
    accept name = .error f ↔
      (¬ ∃ core, Spells name core) ∧ f = .badRequest (refusal (normalize name)) := by
  cases hc : canonical name with
  | ok u =>
    obtain ⟨core, hs, -⟩ := canonical_eq_ok_iff_spells.mp hc
    rw [accept_eq_ok_iff.mpr hc]
    exact iff_of_false nofun fun h => h.1 ⟨core, hs⟩
  | error fault =>
    have hnone : ¬ ∃ core, Spells name core := by
      rintro ⟨core, hs⟩
      have hok : canonical name = .ok (String.ofList (core.map Char.toLower)) :=
        canonical_eq_ok_iff_spells.mpr ⟨core, hs, String.toList_ofList⟩
      rw [hc] at hok
      cases hok
    rw [accept_of_fault hc]
    exact ⟨fun h => ⟨hnone, (Except.error.inj h).symm⟩, fun h => congrArg _ h.2.symm⟩

theorem accept_eq_length_iff {name : String} :
    accept name = .error (.badRequest "username must be 1-32 characters") ↔
      WrongLength (normalize name) := by
  constructor
  · intro h
    exact refusal_eq_iff.mp (Failure.badRequest.inj (accept_eq_error_iff.mp h).2).symm
  · intro h
    rw [accept_of_fault (canonical_of_wrongLength h), refusal_eq_iff.mpr h]

/-- Two names are accepted as one user exactly if they are spelt alike but for case and outer blanks. -/
theorem accept_unique_iff {name name' u u' : String} (h : accept name = .ok u)
    (h' : accept name' = .ok u') :
    u = u' ↔ List.Forall₂ SameButCase (Text.trim name.toList) (Text.trim name'.toList) := by
  rw [eq_normalize_of_canonical (accept_eq_ok_iff.mp h),
    eq_normalize_of_canonical (accept_eq_ok_iff.mp h'), ← String.toList_inj, toList_normalize,
    toList_normalize, Text.map_toLower_eq_iff]

/-- A name that is not accepted is turned away where vehicles are registered and where they are asked
for, with the same failure. -/
theorem turnedAway_of_accept_error {name : String} {f : Failure} (h : accept name = .error f) :
    (∀ db d, Registry.register db name d = ⟨.error f, [], db⟩) ∧
      ∀ (route : Web.Route) (method : Http.Method), route.username? = some name →
        Web.planRoute method route = .answer (Web.complete method f.reply) := by
  cases hc : canonical name with
  | ok u =>
    rw [accept_eq_ok_iff.mpr hc] at h
    cases h
  | error fault =>
    have hf : f = .badRequest fault.reason := by
      rw [accept_of_fault hc] at h
      rw [reason_of_canonical hc, ← Except.error.inj h]
    rw [hf]
    exact ⟨fun db d => Registry.register_of_fault hc db d,
      fun route method hr => Web.planRoute_of_fault method hr hc⟩

end Garage.Username

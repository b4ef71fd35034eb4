import Garage.Proofs.Json.Text

/-!
# Numerals are read as the grammar says

A numeral is scanned as far as it goes. So it is read whole if what follows cannot make it longer, which is
what `Stops` says, and what has been read is a numeral.
-/

namespace Garage.Json

open Garage.Text (Piece)

/-- No numeral before this text could take in more of it. -/
def Stops (r : List Char) : Prop :=
  ∀ c ∈ r.head?, ¬ IsDigit c ∧ c ≠ '.' ∧ c ≠ 'e' ∧ c ≠ 'E'

theorem stops_cons {c : Char} (hd : ¬ IsDigit c) (hp : c ≠ '.') (he : c ≠ 'e') (hE : c ≠ 'E')
    (r : List Char) : Stops (c :: r) := by
  rintro _ ⟨⟩
  exact ⟨hd, hp, he, hE⟩

variable {s r : List Char} {q : List Piece}

/-! ## Runs of digits -/

def digitValue (c : Char) : Nat := c.toNat - 48

theorem digitOf?_of_isDigit {c : Char} (h : IsDigit c) : digitOf? (.char c) = some (digitValue c) :=
  if_pos h

theorem digitOf?_of_not_isDigit {c : Char} (h : ¬ IsDigit c) : digitOf? (.char c) = none :=
  if_neg h

theorem digitValue_eq_zero_iff {c : Char} (h : IsDigit c) : digitValue c = 0 ↔ c = '0' := by
  have h0 : 48 ≤ c.toNat := h.1
  constructor
  · intro hv
    rw [← Char.ofNat_toNat c, show c.toNat = 48 by unfold digitValue at hv; omega]
  · rintro rfl
    rfl

theorem digits_append {ds : List Char} (hd : ∀ c ∈ ds, IsDigit c)
    (hr : ∀ c ∈ r.head?, ¬ IsDigit c) :
    digits ((ds ++ r).map .char) = (ds.map digitValue, r.map .char) := by
  induction ds with
  | nil =>
    cases r with
    | nil => rfl
    | cons c t =>
      rw [List.nil_append, List.map_cons, digits, digitOf?_of_not_isDigit (hr c rfl)]
      rfl
  | cons d ds ih =>
    obtain ⟨hd, hds⟩ := List.forall_mem_cons.mp hd
    rw [List.cons_append, List.map_cons, digits, digitOf?_of_isDigit hd]
    dsimp only
    rw [ih hds]
    rfl

/-- Every text begins with a longest run of digits, which may be empty. -/
theorem exists_run (s : List Char) :
    ∃ ds r, s = ds ++ r ∧ (∀ c ∈ ds, IsDigit c) ∧ ∀ c ∈ r.head?, ¬ IsDigit c := by
  induction s with
  | nil => exact ⟨[], [], rfl, nofun, nofun⟩
  | cons c s ih =>
    by_cases hc : IsDigit c
    · obtain ⟨ds, r, rfl, hd, hr⟩ := ih
      exact ⟨c :: ds, r, rfl, List.forall_mem_cons.mpr ⟨hc, hd⟩, hr⟩
    · refine ⟨[], c :: s, rfl, nofun, ?_⟩
      rintro _ ⟨⟩
      exact hc

theorem digits1_append {ds : List Char} (hd : Digits ds) (hr : ∀ c ∈ r.head?, ¬ IsDigit c) :
    digits1 ((ds ++ r).map .char) = .ok (ds.map digitValue, r.map .char) := by
  rw [digits1, digits_append hd.all hr]
  cases ds with
  | nil => exact absurd rfl hd.ne_nil
  | cons d ds => rfl

theorem exists_digits {vs : List Nat} (h : digits1 (s.map .char) = .ok (vs, q)) :
    ∃ ds r, s = ds ++ r ∧ Digits ds ∧ vs = ds.map digitValue ∧ q = r.map .char := by
  obtain ⟨ds, r, rfl, hd, hr⟩ := exists_run s
  rw [digits1, digits_append hd hr] at h
  cases ds with
  | nil => cases r <;> cases h
  | cons d ds =>
    cases h
    exact ⟨d :: ds, r, rfl, ⟨List.cons_ne_nil d ds, hd⟩, rfl, rfl⟩

/-! ## The parts of a numeral -/

theorem wholePart_append {ds : List Char} (hd : Whole ds) (hr : ∀ c ∈ r.head?, ¬ IsDigit c) :
    wholePart ((ds ++ r).map .char) = .ok (ds.map digitValue, r.map .char) := by
  rw [wholePart, digits1_append hd.toDigits hr]
  simp only [bind, Except.bind]
  split
  · next hz =>
    obtain ⟨d, ds, rfl, hv, hds⟩ := List.map_eq_cons_iff.mp hz
    have hz := (digitValue_eq_zero_iff (hd.all d List.mem_cons_self)).mp hv
    have h1 := hd.leading (by rw [List.head?_cons, hz])
    obtain rfl : ds = [] := (List.cons.inj h1).2
    cases hds
  · rfl

theorem exists_whole {vs : List Nat} (h : wholePart (s.map .char) = .ok (vs, q)) :
    ∃ ds r, s = ds ++ r ∧ Whole ds ∧ q = r.map .char := by
  obtain ⟨⟨ws, t⟩, hw, h⟩ := bind_eq_ok.mp h
  obtain ⟨ds, r, rfl, hd, rfl, rfl⟩ := exists_digits hw
  dsimp only at h
  split at h
  · cases h
  · next hne =>
    cases h
    refine ⟨ds, r, rfl, ⟨hd, fun hz => ?_⟩, rfl⟩
    obtain ⟨t, rfl⟩ := List.head?_eq_some_iff.mp hz
    cases t with
    | nil => rfl
    | cons c t => exact absurd rfl (hne _ _)

theorem fractionPart_absent (hr : ∀ c ∈ r.head?, c ≠ '.') :
    fractionPart (r.map .char) = .ok (none, r.map .char) := by
  cases r with
  | nil => rfl
  | cons c t =>
    rw [List.map_cons, fractionPart]
    rintro _ ⟨⟩
    exact hr '.' rfl rfl

theorem fractionPart_append {f : List Char} (hf : Fraction f)
    (hr : ∀ c ∈ r.head?, ¬ IsDigit c ∧ c ≠ '.') :
    ∃ o, fractionPart ((f ++ r).map .char) = .ok (o, r.map .char) := by
  cases hf with
  | absent => exact ⟨none, fractionPart_absent fun c hc => (hr c hc).2⟩
  | present hd =>
    rw [List.cons_append, List.map_cons, fractionPart, digits1_append hd fun c hc => (hr c hc).1]
    exact ⟨_, rfl⟩

theorem exists_fraction {o : Option (List Nat)} (h : fractionPart (s.map .char) = .ok (o, q)) :
    ∃ f r, s = f ++ r ∧ Fraction f ∧ q = r.map .char := by
  unfold fractionPart at h
  split at h
  · next hs =>
    obtain ⟨c, t, rfl, hc, rfl⟩ := map_eq_cons hs
    cases hc
    cases hd : digits1 (t.map .char) with
    | error e =>
      rw [hd] at h
      cases h
    | ok p =>
      obtain ⟨ds, r, rfl, hds, -, hr⟩ := exists_digits hd
      rw [hd] at h
      cases h
      exact ⟨'.' :: ds, r, rfl, .present hds, hr⟩
  · cases h
    exact ⟨[], s, rfl, .absent, rfl⟩

theorem exponentSign_append {sign ds : List Char} (hs : sign = [] ∨ sign = ['+'] ∨ sign = ['-'])
    (hd : Digits ds) (r : List Char) :
    (exponentSign ((sign ++ (ds ++ r)).map .char)).2 = (ds ++ r).map .char := by
  rcases hs with rfl | rfl | rfl
  · cases ds with
    | nil => exact absurd rfl hd.ne_nil
    | cons d ds =>
      have h := hd.all d List.mem_cons_self
      rw [List.nil_append, List.cons_append, List.map_cons, exponentSign]
      · rintro _ ⟨⟩
        exact absurd h (by decide)
      · rintro _ ⟨⟩
        exact absurd h (by decide)
  · rfl
  · rfl

theorem exists_sign (s : List Char) :
    ∃ sign r, s = sign ++ r ∧ (sign = [] ∨ sign = ['+'] ∨ sign = ['-']) ∧
      (exponentSign (s.map .char)).2 = r.map .char := by
  generalize hp : s.map Piece.char = p
  unfold exponentSign
  split
  · obtain ⟨c, r, rfl, hc, rfl⟩ := map_eq_cons hp
    cases hc
    exact ⟨['-'], r, rfl, Or.inr (Or.inr rfl), rfl⟩
  · obtain ⟨c, r, rfl, hc, rfl⟩ := map_eq_cons hp
    cases hc
    exact ⟨['+'], r, rfl, Or.inr (Or.inl rfl), rfl⟩
  · exact ⟨[], s, rfl, Or.inl rfl, hp.symm⟩

theorem exponentPart_append {e : List Char} (he : Exponent e)
    (hr : ∀ c ∈ r.head?, ¬ IsDigit c ∧ c ≠ 'e' ∧ c ≠ 'E') :
    ∃ o, exponentPart ((e ++ r).map .char) = .ok (o, r.map .char) := by
  cases he with
  | absent =>
    cases r with
    | nil => exact ⟨none, rfl⟩
    | cons c t =>
      obtain ⟨-, he, hE⟩ := hr c rfl
      rw [List.nil_append, List.map_cons, exponentPart, if_neg (not_or.mpr ⟨he, hE⟩)]
      exact ⟨none, rfl⟩
  | present he hs hd =>
    rw [List.cons_append, List.map_cons, exponentPart, if_pos he, List.append_assoc]
    dsimp only
    rw [exponentSign_append hs hd, digits1_append hd fun c hc => (hr c hc).1]
    exact ⟨_, rfl⟩

theorem exists_exponent {o : Option (Bool × List Nat)}
    (h : exponentPart (s.map .char) = .ok (o, q)) :
    ∃ e r, s = e ++ r ∧ Exponent e ∧ q = r.map .char := by
  cases s with
  | nil =>
    cases h
    exact ⟨[], [], rfl, .absent, rfl⟩
  | cons c t =>
    rw [List.map_cons, exponentPart] at h
    split at h
    · next hc =>
      obtain ⟨sign, r, rfl, hs, hr⟩ := exists_sign t
      dsimp only at h
      rw [hr] at h
      cases hd : digits1 (r.map .char) with
      | error e =>
        rw [hd] at h
        cases h
      | ok p =>
        obtain ⟨ds, r, rfl, hds, -, hr⟩ := exists_digits hd
        rw [hd] at h
        cases h
        refine ⟨c :: (sign ++ ds), r, ?_, .present hc hs hds, hr⟩
        rw [List.cons_append, List.append_assoc]
    · cases h
      exact ⟨[], c :: t, rfl, .absent, rfl⟩

/-! ## Whole numerals -/

/-- What follows the whole part of a numeral makes neither it nor a missing fraction longer. -/
theorem head?_exponent {e : List Char} (he : Exponent e) (hr : Stops r) :
    ∀ c ∈ (e ++ r).head?, ¬ IsDigit c ∧ c ≠ '.' := by
  cases he with
  | absent => exact fun c hc => ⟨(hr c hc).1, (hr c hc).2.1⟩
  | present he =>
    rintro _ ⟨⟩
    rcases he with rfl | rfl <;> exact ⟨by decide, by decide⟩

theorem head?_fraction {f t : List Char} (hf : Fraction f)
    (ht : ∀ c ∈ t.head?, ¬ IsDigit c ∧ c ≠ '.') : ∀ c ∈ (f ++ t).head?, ¬ IsDigit c := by
  cases hf with
  | absent => exact fun c hc => (ht c hc).1
  | present hd =>
    rintro _ ⟨⟩
    decide

theorem skipNumber_of_unsigned {n : List Char} (h : Unsigned n) (hr : Stops r) :
    skipNumber ((n ++ r).map .char) = .ok (r.map .char) := by
  cases h with
  | parts hw hf he =>
    have hhead := head?_exponent he hr
    obtain ⟨o, ho⟩ := fractionPart_append hf hhead
    obtain ⟨o', ho'⟩ := exponentPart_append he fun c hc =>
      ⟨(hr c hc).1, (hr c hc).2.2.1, (hr c hc).2.2.2⟩
    rw [skipNumber, scanNumber, List.append_assoc, List.append_assoc,
      wholePart_append hw (head?_fraction hf hhead)]
    simp only [bind, Except.bind, ho, ho']

theorem exists_unsigned (h : skipNumber (s.map .char) = .ok q) :
    ∃ n r, s = n ++ r ∧ Unsigned n ∧ q = r.map .char := by
  unfold skipNumber at h
  split at h
  · next hn =>
    cases h
    obtain ⟨⟨_, t⟩, hw, hn⟩ := bind_eq_ok.mp hn
    obtain ⟨w, r, rfl, hwhole, rfl⟩ := exists_whole hw
    obtain ⟨⟨_, t⟩, hf, hn⟩ := bind_eq_ok.mp hn
    obtain ⟨f, r, rfl, hfraction, rfl⟩ := exists_fraction hf
    obtain ⟨⟨_, t⟩, he, hn⟩ := bind_eq_ok.mp hn
    obtain ⟨e, r, rfl, hexponent, rfl⟩ := exists_exponent he
    cases hn
    exact ⟨w ++ (f ++ e), r, by simp only [List.append_assoc], .parts hwhole hfraction hexponent, rfl⟩
  · cases h

end Garage.Json

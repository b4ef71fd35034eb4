/-! Digits of a number in base ten and sixteen: ASCII only, letters in either case. -/

namespace Garage.Text

/-- The value of a decimal digit. -/
def decimal? (c : Char) : Option Nat :=
  if '0' ≤ c ∧ c ≤ '9' then some (c.toNat - 48) else none

/-- The value of a hexadecimal digit. -/
def hex? (c : Char) : Option Nat :=
  if '0' ≤ c ∧ c ≤ '9' then some (c.toNat - 48)
  else if 'a' ≤ c ∧ c ≤ 'f' then some (c.toNat - 87)
  else if 'A' ≤ c ∧ c ≤ 'F' then some (c.toNat - 55)
  else none

/-- Reads `cs`, most significant digit first, with the digits of `digit?`; `none` if another
character stands among them. -/
def number? (base : Nat) (digit? : Char → Option Nat) (cs : List Char) : Option Nat :=
  cs.foldl (fun n c => n.bind fun n => (digit? c).map (base * n + ·)) (some 0)

theorem decimal?_lt {c : Char} {n : Nat} (h : decimal? c = some n) : n < 10 := by
  have h9 : '9'.toNat = 57 := rfl
  simp only [decimal?, Option.ite_none_right_eq_some, Option.some.injEq] at h
  have : c.toNat ≤ '9'.toNat := h.1.2
  omega

theorem hex?_lt {c : Char} {n : Nat} (h : hex? c = some n) : n < 16 := by
  unfold hex? at h
  split at h
  case isTrue hc => have : c.toNat ≤ '9'.toNat := hc.2; simp at h this; omega
  split at h
  case isTrue hc => have : c.toNat ≤ 'f'.toNat := hc.2; simp at h this; omega
  split at h
  case isTrue hc => have : c.toNat ≤ 'F'.toNat := hc.2; simp at h this; omega
  simp at h

end Garage.Text

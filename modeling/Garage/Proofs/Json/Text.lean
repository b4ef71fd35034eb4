import Garage.Proofs.Details.RoundTrip
import Garage.Proofs.Json.Grammar

/-!
# Texts are read as the grammar says

The scanner stops at the quote that closes a text. A text that is kept is read exactly if it stands for
something, and as what it stands for; a text that is skipped need only have the form of one.
-/

namespace Garage.Json

open Garage.Text (Piece)

variable {s : List Char} {q : List Piece}

/-- What is left of characters is characters. -/
theorem map_eq_cons {p : Piece} (h : s.map Piece.char = p :: q) :
    ∃ c t, s = c :: t ∧ p = .char c ∧ q = t.map .char := by
  obtain ⟨c, t, rfl, rfl, rfl⟩ := List.map_eq_cons_iff.mp h
  exact ⟨c, t, rfl, rfl, rfl⟩

theorem bind_eq_ok {ε α β : Type} {x : Except ε α} {f : α → Except ε β} {b : β} :
    (x >>= f) = .ok b ↔ ∃ a, x = .ok a ∧ f a = .ok b := by
  cases x with
  | error e => exact iff_of_false nofun (by rintro ⟨_, ⟨⟩, _⟩)
  | ok a => exact ⟨fun h => ⟨a, rfl, h⟩, by rintro ⟨_, ⟨⟩, h⟩; exact h⟩

theorem expect_map {c : Char} (h : expect c (s.map .char) = .ok q) :
    ∃ t, s = c :: t ∧ q = t.map .char := by
  cases s with
  | nil => cases h
  | cons a t =>
    rw [List.map_cons, expect] at h
    split at h
    · next ha =>
      cases ha
      cases h
      exact ⟨t, rfl, rfl⟩
    · cases h

/-! ## Code units -/

theorem hex4_of_hex4 {ds : List Char} {n : Nat} (h : Hex4 ds n) (r : List Char) :
    hex4 ((ds ++ r).map .char) = .ok (n, r.map .char) := by
  cases h with
  | digits ha hb hc hd => exact hex4_chars ha hb hc hd _

theorem exists_hex4 {n : Nat} (h : hex4 (s.map .char) = .ok (n, q)) :
    ∃ ds r, s = ds ++ r ∧ Hex4 ds n ∧ q = r.map .char := by
  unfold hex4 at h
  split at h
  · cases h
  split at h
  · next a b c d r hs =>
    obtain ⟨a, s, rfl, ha, hs⟩ := map_eq_cons hs
    obtain ⟨b, s, rfl, hb, hs⟩ := map_eq_cons hs.symm
    obtain ⟨c, s, rfl, hc, hs⟩ := map_eq_cons hs.symm
    obtain ⟨d, s, rfl, hd, rfl⟩ := map_eq_cons hs.symm
    cases ha; cases hb; cases hc; cases hd
    split at h
    · next ha hb hc hd =>
      cases h
      exact ⟨_, s, rfl, .digits ha hb hc hd, rfl⟩
    · cases h
  · cases h

theorem lt_of_hex4 {ds : List Char} {n : Nat} (h : Hex4 ds n) : n < 0x10000 := by
  cases h with
  | digits ha hb hc hd =>
    have := Text.hex?_lt ha
    have := Text.hex?_lt hb
    have := Text.hex?_lt hc
    have := Text.hex?_lt hd
    omega

theorem toNat_ofNat {n : Nat} (h : n < 0xd800 ∨ 0xdfff < n ∧ n < 0x110000) :
    (Char.ofNat n).toNat = n := by
  have hv : n.isValidChar := h
  rw [Char.ofNat, dif_pos hv]
  rfl

/-- A code unit that is no surrogate stands for a character. -/
theorem toNat_ofNat_unit {n : Nat} (hn : n < 0x10000) (ht : isTrailing n = false)
    (hl : isLeading n = false) : (Char.ofNat n).toNat = n := by
  simp only [isTrailing, isLeading, Bool.and_eq_false_iff, decide_eq_false_iff_not] at ht hl
  exact toNat_ofNat (by omega)

/-- The character of a pair, and the pair of a character. -/
theorem toNat_joinSurrogates {n m : Nat} (hn : isLeading n = true) (hm : isTrailing m = true) :
    0x10000 ≤ (joinSurrogates n m).toNat ∧
      n = 0xd800 + ((joinSurrogates n m).toNat - 0x10000) / 0x400 ∧
      m = 0xdc00 + ((joinSurrogates n m).toNat - 0x10000) % 0x400 := by
  simp only [isLeading, isTrailing, Bool.and_eq_true, decide_eq_true_eq] at hn hm
  rw [joinSurrogates, toNat_ofNat (by omega)]
  omega

/-- The pair of a character beyond the first 65536 is read as that character. -/
theorem joinSurrogates_pair {c : Char} (hc : 0x10000 ≤ c.toNat) {n m : Nat}
    (hn : n = 0xd800 + (c.toNat - 0x10000) / 0x400)
    (hm : m = 0xdc00 + (c.toNat - 0x10000) % 0x400) :
    isLeading n = true ∧ isTrailing m = true ∧ joinSurrogates n m = c := by
  have hlt : c.toNat < 0xd800 ∨ 0xdfff < c.toNat ∧ c.toNat < 0x110000 := c.valid
  have hv : 0x10000 + (n - 0xd800) * 0x400 + (m - 0xdc00) = c.toNat := by omega
  simp only [isLeading, isTrailing, Bool.and_eq_true, decide_eq_true_eq]
  refine ⟨by omega, by omega, ?_⟩
  rw [joinSurrogates, hv, Char.ofNat_toNat]

theorem isTrailing_toNat (c : Char) : isTrailing c.toNat = false := by
  have hc : c.toNat < 0xd800 ∨ 0xdfff < c.toNat ∧ c.toNat < 0x110000 := c.valid
  simp only [isTrailing, Bool.and_eq_false_iff, decide_eq_false_iff_not]
  omega

theorem isLeading_toNat (c : Char) : isLeading c.toNat = false := by
  have hc : c.toNat < 0xd800 ∨ 0xdfff < c.toNat ∧ c.toNat < 0x110000 := c.valid
  simp only [isLeading, Bool.and_eq_false_iff, decide_eq_false_iff_not]
  omega

/-! ## Escapes -/

theorem shortEscape?_eq_some_iff {e c : Char} :
    shortEscape? e = some c ↔ (e, c) ∈ shortEscapes := by
  constructor
  · intro h
    unfold shortEscape? at h
    split at h
    · next he =>
      cases h
      rcases he with rfl | rfl | rfl <;> decide
    repeat' split at h
    all_goals cases h
    all_goals subst e; decide
  · intro h
    simp only [shortEscapes, List.mem_cons, Prod.mk.injEq, List.not_mem_nil, or_false] at h
    rcases h with ⟨rfl, rfl⟩ | ⟨rfl, rfl⟩ | ⟨rfl, rfl⟩ | ⟨rfl, rfl⟩ | ⟨rfl, rfl⟩ | ⟨rfl, rfl⟩ |
      ⟨rfl, rfl⟩ | ⟨rfl, rfl⟩ <;> rfl

theorem ne_of_mem_shortEscapes {e c : Char} (h : (e, c) ∈ shortEscapes) : e ≠ 'u' := by
  rintro rfl
  rw [← shortEscape?_eq_some_iff] at h
  cases h

theorem escapeWith_short {unicode : List Piece → Except Fault (Char × List Piece)} {e c : Char}
    (h : (e, c) ∈ shortEscapes) (r : List Piece) :
    escapeWith unicode (.char e :: r) = .ok (c, r) := by
  rw [escapeWith, if_neg (ne_of_mem_shortEscapes h), shortEscape?_eq_some_iff.mpr h]

theorem escapeWith_unicode (unicode : List Piece → Except Fault (Char × List Piece))
    (r : List Piece) : escapeWith unicode (.char 'u' :: r) = unicode r := by
  rw [escapeWith, if_pos rfl]

/-- An escape is a short one, or what the code units say. -/
theorem escapeWith_eq_ok {unicode : List Piece → Except Fault (Char × List Piece)} {c : Char}
    (h : escapeWith unicode (s.map .char) = .ok (c, q)) :
    (∃ e r, s = e :: r ∧ (e, c) ∈ shortEscapes ∧ q = r.map .char) ∨
      ∃ r, s = 'u' :: r ∧ unicode (r.map .char) = .ok (c, q) := by
  cases s with
  | nil => cases h
  | cons e r =>
    rw [List.map_cons, escapeWith] at h
    split at h
    · next he => exact Or.inr ⟨r, by rw [he], h⟩
    · split at h
      · next d hd =>
        cases h
        exact Or.inl ⟨e, r, rfl, shortEscape?_eq_some_iff.mp hd, rfl⟩
      · cases h

theorem unicodeEscape_unit {ds : List Char} {c : Char} (h : Hex4 ds c.toNat) (r : List Char) :
    unicodeEscape ((ds ++ r).map .char) = .ok (c, r.map .char) := by
  rw [unicodeEscape, hex4_of_hex4 h]
  simp only [bind, Except.bind, isTrailing_toNat, isLeading_toNat, Bool.false_eq_true, if_false,
    Char.ofNat_toNat]

theorem unicodeEscape_pair {hi lo : List Char} {n m : Nat} (hn : Hex4 hi n) (hm : Hex4 lo m)
    (hl : isLeading n = true) (ht : isTrailing m = true) (r : List Char) :
    unicodeEscape ((hi ++ '\\' :: 'u' :: (lo ++ r)).map .char) =
      .ok (joinSurrogates n m, r.map .char) := by
  have hf : isTrailing n = false := by
    simp only [isLeading, isTrailing, Bool.and_eq_true, Bool.and_eq_false_iff, decide_eq_true_eq,
      decide_eq_false_iff_not] at hl ⊢
    omega
  rw [unicodeEscape, hex4_of_hex4 hn]
  simp only [List.map_cons, bind, Except.bind, hf, hl, expect_self, hex4_of_hex4 hm, ht,
    Bool.false_eq_true, if_false, if_true]

theorem exists_unicodeEscape {c : Char} (h : unicodeEscape (s.map .char) = .ok (c, q)) :
    ∃ e r, s = e ++ r ∧ Escape ('u' :: e) c ∧ q = r.map .char := by
  unfold unicodeEscape at h
  obtain ⟨⟨n, t⟩, hn, h⟩ := bind_eq_ok.mp h
  obtain ⟨hi, r, rfl, hhi, rfl⟩ := exists_hex4 hn
  dsimp only at h
  split at h
  · cases h
  next ht =>
  split at h
  · next hl =>
    obtain ⟨t, he, h⟩ := bind_eq_ok.mp h
    obtain ⟨r, rfl, rfl⟩ := expect_map he
    obtain ⟨t, he, h⟩ := bind_eq_ok.mp h
    obtain ⟨r, rfl, rfl⟩ := expect_map he
    obtain ⟨⟨m, t⟩, hm, h⟩ := bind_eq_ok.mp h
    obtain ⟨lo, r, rfl, hlo, rfl⟩ := exists_hex4 hm
    dsimp only at h
    split at h
    · next hm =>
      obtain ⟨rfl, rfl⟩ := Prod.mk.inj (Except.ok.inj h)
      obtain ⟨hc, hn, hm⟩ := toNat_joinSurrogates hl hm
      refine ⟨hi ++ '\\' :: 'u' :: lo, r, by simp, .pair hc (hn ▸ hhi) (hm ▸ hlo), rfl⟩
    · cases h
  · next hl =>
    cases h
    refine ⟨hi, r, rfl, .unit ?_, rfl⟩
    rw [toNat_ofNat_unit (lt_of_hex4 hhi) (Bool.eq_false_iff.mpr ht) (Bool.eq_false_iff.mpr hl)]
    exact hhi

/-- An escape is read as the character that it stands for. -/
theorem kept_read_escape {e : List Char} {c : Char} (h : Escape e c) (r : List Char) :
    EscapeReader.kept.read ((e ++ r).map .char) = .ok (c, r.map .char) := by
  show escapeWith unicodeEscape _ = _
  cases h with
  | short hm => exact escapeWith_short hm _
  | unit hu => exact (escapeWith_unicode _ _).trans (unicodeEscape_unit hu r)
  | pair hc hhi hlo =>
    obtain ⟨hl, ht, hj⟩ := joinSurrogates_pair hc rfl rfl
    rw [List.cons_append, List.map_cons, escapeWith_unicode, List.append_assoc]
    exact (unicodeEscape_pair hhi hlo hl ht r).trans (by rw [hj])

theorem exists_escape {c : Char} (h : EscapeReader.kept.read (s.map .char) = .ok (c, q)) :
    ∃ e r, s = e ++ r ∧ Escape e c ∧ q = r.map .char := by
  rcases escapeWith_eq_ok h with ⟨e, r, rfl, hm, rfl⟩ | ⟨r, rfl, hu⟩
  · exact ⟨[e], r, rfl, .short hm, rfl⟩
  · obtain ⟨e, r, rfl, he, rfl⟩ := exists_unicodeEscape hu
    exact ⟨'u' :: e, r, rfl, he, rfl⟩

theorem skipped_read (s : List Piece) : EscapeReader.skipped.read s =
    escapeWith (fun s => (hex4 s).map fun p => ('\ufffd', p.2)) s := rfl

theorem skipped_read_escape {e : List Char} (h : EscapeForm e) (r : List Char) :
    ∃ c, EscapeReader.skipped.read ((e ++ r).map .char) = .ok (c, r.map .char) := by
  rw [skipped_read]
  cases h with
  | short hm => exact ⟨_, escapeWith_short hm _⟩
  | @unit ds n hu =>
    rw [List.cons_append, List.map_cons, escapeWith_unicode, hex4_of_hex4 hu]
    exact ⟨_, rfl⟩

theorem exists_escapeForm {c : Char} (h : EscapeReader.skipped.read (s.map .char) = .ok (c, q)) :
    ∃ e r, s = e ++ r ∧ EscapeForm e ∧ q = r.map .char := by
  rcases escapeWith_eq_ok h with ⟨e, r, rfl, hm, rfl⟩ | ⟨r, rfl, hu⟩
  · exact ⟨[e], r, rfl, .short hm, rfl⟩
  · cases hx : hex4 (r.map .char) with
    | error e =>
      rw [hx] at hu
      cases hu
    | ok p =>
      obtain ⟨n, t⟩ := p
      obtain ⟨ds, r, rfl, hds, rfl⟩ := exists_hex4 hx
      rw [hx] at hu
      cases hu
      exact ⟨'u' :: ds, r, rfl, .unit hds, rfl⟩

/-! ## Whole texts -/

theorem scanText_of_denotes {body cs : List Char} (h : Denotes body cs) (acc : List Char)
    (sound : Bool) (r : List Char) :
    scanText .kept acc sound ((body ++ '"' :: r).map .char) =
      .ok ⟨cs.reverse ++ acc, sound, r.map .char⟩ := by
  induction h generalizing acc with
  | nil => exact scanText_quote _ _ _ _
  | plain hc _ ih =>
    rw [List.cons_append, List.map_cons,
      scanText_plain _ _ _ _ hc.ne_quote hc.ne_backslash hc.not_lt_space, ih,
      List.reverse_cons, List.append_assoc, List.singleton_append]
  | escape he _ ih =>
    rw [List.cons_append, List.map_cons, List.append_assoc, scanText_escape (kept_read_escape he _),
      ih, List.reverse_cons, List.append_assoc, List.singleton_append]

/-- A kept text is scanned only if it stands for something. -/
theorem exists_denotes {acc : List Char} {sound : Bool} {t : Scanned}
    (h : scanText .kept acc sound (s.map .char) = .ok t) :
    ∃ body cs r, s = body ++ '"' :: r ∧ Denotes body cs ∧
      t = ⟨cs.reverse ++ acc, sound, r.map .char⟩ := by
  generalize hp : s.map Piece.char = p at h
  fun_induction scanText EscapeReader.kept acc sound p generalizing s with
  | case1 => cases h
  | case2 acc sound =>
    obtain ⟨c, r, rfl, hc, rfl⟩ := map_eq_cons hp
    cases hc
    cases h
    exact ⟨[], [], r, rfl, .nil, rfl⟩
  | case3 acc sound _ d _ hread _ _ ih =>
    obtain ⟨c, r, rfl, hc, rfl⟩ := map_eq_cons hp
    cases hc
    obtain ⟨e, r, rfl, he, rfl⟩ := exists_escape hread
    obtain ⟨body, cs, r, rfl, hd, rfl⟩ := ih rfl h
    refine ⟨_, d :: cs, r, ?_, .escape he hd, ?_⟩
    · rw [List.cons_append, List.append_assoc]
    · rw [List.reverse_cons, List.append_assoc, List.singleton_append]
  | case4 => cases h
  | case5 => cases h
  | case6 acc sound c _ hq hb hs ih =>
    obtain ⟨c, r, rfl, hc, rfl⟩ := map_eq_cons hp
    cases hc
    obtain ⟨body, cs, r, rfl, hd, rfl⟩ := ih rfl h
    refine ⟨c :: body, c :: cs, r, rfl, .plain ⟨hq, hb, hs⟩ hd, ?_⟩
    rw [List.reverse_cons, List.append_assoc, List.singleton_append]
  | case7 acc sound p r hne ih =>
    obtain ⟨c, r, rfl, hc, rfl⟩ := map_eq_cons hp
    exact absurd hc (hne c)

theorem scanText_of_spelled {body : List Char} (h : Spelled body) (acc : List Char) (sound : Bool)
    (r : List Char) :
    ∃ t, scanText .skipped acc sound ((body ++ '"' :: r).map .char) = .ok t ∧
      t.rest = r.map .char := by
  induction h generalizing acc with
  | nil => exact ⟨_, scanText_quote _ _ _ _, rfl⟩
  | plain hc _ ih =>
    rw [List.cons_append, List.map_cons,
      scanText_plain _ _ _ _ hc.ne_quote hc.ne_backslash hc.not_lt_space]
    exact ih _
  | escape he _ ih =>
    obtain ⟨d, hd⟩ := skipped_read_escape he _
    rw [List.cons_append, List.map_cons, List.append_assoc, scanText_escape hd]
    exact ih _

/-- A skipped text is scanned only if it has the form of one. -/
theorem exists_spelled {acc : List Char} {sound : Bool} {t : Scanned}
    (h : scanText .skipped acc sound (s.map .char) = .ok t) :
    ∃ body r, s = body ++ '"' :: r ∧ Spelled body ∧ t.rest = r.map .char := by
  generalize hp : s.map Piece.char = p at h
  fun_induction scanText EscapeReader.skipped acc sound p generalizing s with
  | case1 => cases h
  | case2 acc sound =>
    obtain ⟨c, r, rfl, hc, rfl⟩ := map_eq_cons hp
    cases hc
    cases h
    exact ⟨[], r, rfl, .nil, rfl⟩
  | case3 acc sound _ d _ hread _ _ ih =>
    obtain ⟨c, r, rfl, hc, rfl⟩ := map_eq_cons hp
    cases hc
    obtain ⟨e, r, rfl, he, rfl⟩ := exists_escapeForm hread
    obtain ⟨body, r, rfl, hd, hr⟩ := ih rfl h
    exact ⟨_, r, by rw [List.cons_append, List.append_assoc], .escape he hd, hr⟩
  | case4 => cases h
  | case5 => cases h
  | case6 acc sound c _ hq hb hs ih =>
    obtain ⟨c, r, rfl, hc, rfl⟩ := map_eq_cons hp
    cases hc
    obtain ⟨body, r, rfl, hd, hr⟩ := ih rfl h
    exact ⟨c :: body, r, rfl, .plain ⟨hq, hb, hs⟩ hd, hr⟩
  | case7 acc sound p r hne ih =>
    obtain ⟨c, r, rfl, hc, rfl⟩ := map_eq_cons hp
    exact absurd hc (hne c)

/-- A text is read as what it stands for. -/
theorem readText_of_denotes {body cs : List Char} (h : Denotes body cs) (r : List Char) :
    readText ((body ++ '"' :: r).map .char) = .ok (cs, r.map .char) := by
  rw [readText, scanText_of_denotes h]
  simp only [if_true, List.append_nil, List.reverse_reverse]

theorem exists_denotes_of_readText {cs : List Char} (h : readText (s.map .char) = .ok (cs, q)) :
    ∃ body r, s = body ++ '"' :: r ∧ Denotes body cs ∧ q = r.map .char := by
  unfold readText at h
  split at h
  · next t ht =>
    obtain ⟨body, cs, r, rfl, hd, rfl⟩ := exists_denotes ht
    simp only [if_true, List.append_nil, List.reverse_reverse, Except.ok.injEq,
      Prod.mk.injEq] at h
    obtain ⟨rfl, rfl⟩ := h
    exact ⟨body, r, rfl, hd, rfl⟩
  · cases h

theorem skipText_of_spelled {body : List Char} (h : Spelled body) (r : List Char) :
    skipText ((body ++ '"' :: r).map .char) = .ok (r.map .char) := by
  obtain ⟨t, ht, hr⟩ := scanText_of_spelled h [] true r
  rw [skipText, ht, ← hr]
  rfl

theorem exists_spelled_of_skipText (h : skipText (s.map .char) = .ok q) :
    ∃ body r, s = body ++ '"' :: r ∧ Spelled body ∧ q = r.map .char := by
  unfold skipText at h
  cases ht : scanText .skipped [] true (s.map .char) with
  | error e =>
    rw [ht] at h
    cases h
  | ok t =>
    rw [ht] at h
    cases h
    exact exists_spelled ht

/-- The quote that closes a text is found in one way only. -/
theorem Spelled.unique {body body' r r' : List Char} (h : Spelled body) (h' : Spelled body')
    (he : body ++ '"' :: r = body' ++ '"' :: r') : body = body' ∧ r = r' := by
  have hr := skipText_of_spelled h r
  rw [he, skipText_of_spelled h' r'] at hr
  obtain rfl : r' = r := (List.map_inj_right fun _ _ hc => Piece.char.inj hc).mp (Except.ok.inj hr)
  exact ⟨List.append_cancel_right he, rfl⟩

end Garage.Json

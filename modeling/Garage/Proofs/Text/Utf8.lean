import Garage.Text.Utf8
import Mathlib.Algebra.GroupWithZero.Nat
import Mathlib.Data.List.Infix

/-!
# How much bytes and texts take

The pieces of a byte string are as wide as it is long. What is shown for them may take more, but never more
than three bytes for each byte that is no character.
-/

namespace Garage.Text.Utf8

/-! ## Pieces -/

theorem toNat_ofNat_le (n : Nat) : (Char.ofNat n).toNat ≤ n := by
  by_cases hn : n.isValidChar
  · rw [Char.ofNat, dif_pos hn]
    exact Nat.le_refl n
  · rw [Char.ofNat, dif_neg hn]
    exact Nat.zero_le n

theorem utf8Size_ofNat_le (n : Nat) :
    (Char.ofNat n).utf8Size ≤
      if n < 0x80 then 1 else if n < 0x800 then 2 else if n < 0x10000 then 3 else 4 := by
  have hn := toNat_ofNat_le n
  have hv : (Char.ofNat n).val.toNat = (Char.ofNat n).toNat := rfl
  simp only [Char.utf8Size, UInt32.le_iff_toNat_le, UInt32.toNat_ofNatLT, hv]
  split_ifs <;> omega

theorem payload_lt {b : UInt8} (h : continues b = true) : payload b < 64 := by
  simp only [continues, Bool.and_eq_true, decide_eq_true_eq] at h
  unfold payload
  omega

theorem continues_of_follows {a b : UInt8} (h : follows a b = true) : continues b = true := by
  rw [follows, Bool.and_eq_true] at h
  exact h.1

/-- The pieces of a byte string are no wider than it is long. -/
theorem sum_width_pieces_le (bytes : List UInt8) :
    ((pieces bytes).map Piece.width).sum ≤ bytes.length := by
  fun_induction pieces bytes with
  | case1 => exact Nat.le_refl _
  | case2 a s ha ih =>
    have hw := utf8Size_ofNat_le a.toNat
    rw [if_pos ha] at hw
    simp only [List.map_cons, List.sum_cons, Piece.width, List.length_cons]
    omega
  | case6 a ha ha' b t hb hlt ih =>
    rw [Bool.not_eq_true', Bool.not_eq_false] at hb
    have hp := payload_lt (continues_of_follows hb)
    have hw := utf8Size_ofNat_le ((a.toNat - 0xc0) * 0x40 + payload b)
    simp only [List.map_cons, List.sum_cons, Piece.width, List.length_cons]
    split_ifs at hw <;> omega
  | case9 a ha ha' b hb hlt c u hc hlt' ih =>
    rw [Bool.not_eq_true', Bool.not_eq_false] at hb hc
    have hp := payload_lt (continues_of_follows hb)
    have hp' := payload_lt hc
    have hw := utf8Size_ofNat_le ((a.toNat - 0xe0) * 0x1000 + payload b * 0x40 + payload c)
    simp only [List.map_cons, List.sum_cons, Piece.width, List.length_cons]
    split_ifs at hw <;> omega
  | case12 a ha ha' b hb hlt c hc hlt' d v hd ih =>
    have hw := Char.utf8Size_le_four (Char.ofNat ((a.toNat - 0xf0) * 0x40000 + payload b * 0x1000
      + payload c * 0x40 + payload d))
    simp only [List.map_cons, List.sum_cons, Piece.width, List.length_cons]
    omega
  | _ =>
    simp only [List.map_cons, List.sum_cons, List.map_nil, List.sum_nil, Piece.width,
      List.length_cons, List.length_nil] at *
    omega

theorem length_encode (cs : List Char) : (encode cs).length = (cs.map Char.utf8Size).sum := by
  rw [encode, List.length_flatMap]
  congr 1
  exact List.map_congr_left fun c _ => String.length_utf8EncodeChar c

/-- Without a flaw all pieces are characters. -/
theorem eq_map_char_of_firstFlaw? {index : Nat} {ps : List Piece} (h : firstFlaw? index ps = none) :
    ps = (ps.map Piece.shown).map .char := by
  induction ps generalizing index with
  | nil => rfl
  | cons p ps ih =>
    cases p with
    | char c =>
      rw [List.map_cons, List.map_cons, ← ih h]
      rfl
    | broken w => cases h
    | cut w => cases h

theorem firstFlaw?_map_char (index : Nat) (cs : List Char) :
    firstFlaw? index (cs.map .char) = none := by
  induction cs generalizing index with
  | nil => rfl
  | cons c cs ih => exact ih _

/-- A character is one byte that is its number, or all its bytes are above those. -/
theorem mem_encodeChar {c : Char} {b : UInt8} (h : b ∈ String.utf8EncodeChar c) :
    (String.utf8EncodeChar c = [b] ∧ b.toNat = c.toNat) ∨ 0x80 ≤ b.toNat := by
  have hv : c.val.toNat = c.toNat := rfl
  have above {n : Nat} (hn : 0x80 ≤ n) (hn' : n < 256) : 0x80 ≤ (UInt8.ofNat n).toNat := by
    rwa [toNat_ofNat_of_lt hn']
  unfold String.utf8EncodeChar at h ⊢
  simp only [hv] at h ⊢
  split at h
  · next hc =>
    obtain rfl := List.mem_singleton.mp h
    rw [if_pos hc, toNat_ofNat_of_lt (by omega)]
    exact Or.inl ⟨rfl, rfl⟩
  right
  split at h
  · simp only [List.mem_cons, List.not_mem_nil, or_false] at h
    rcases h with rfl | rfl <;> exact above (by omega) (by omega)
  split at h
  · simp only [List.mem_cons, List.not_mem_nil, or_false] at h
    rcases h with rfl | rfl | rfl <;> exact above (by omega) (by omega)
  · simp only [List.mem_cons, List.not_mem_nil, or_false] at h
    rcases h with rfl | rfl | rfl | rfl <;> exact above (by omega) (by omega)

/-- A byte below the others is a character of its own at the start of a text. -/
theorem exists_of_encode_cons {cs : List Char} {b : UInt8} {s : List UInt8}
    (h : encode cs = b :: s) (hb : b.toNat < 0x80) : ∃ c cs', cs = c :: cs' ∧ encode cs' = s := by
  cases cs with
  | nil => cases h
  | cons c cs =>
    have hc : encode (c :: cs) = String.utf8EncodeChar c ++ encode cs := List.flatMap_cons
    rw [hc] at h
    have hm : b ∈ String.utf8EncodeChar c := by
      cases he : String.utf8EncodeChar c with
      | nil =>
        have hl := String.length_utf8EncodeChar c
        have := c.utf8Size_pos
        rw [he, List.length_nil] at hl
        omega
      | cons a r =>
        rw [he, List.cons_append] at h
        rw [(List.cons.inj h).1]
        exact List.mem_cons_self
    rcases mem_encodeChar hm with ⟨he, -⟩ | he
    · rw [he] at h
      exact ⟨c, cs, rfl, (List.cons.inj h).2⟩
    · omega

/-! ## What is shown -/

/-- How many bytes the characters take that are shown for pieces. -/
def shownSize (ps : List Piece) : Nat :=
  (ps.map fun p => p.shown.utf8Size).sum

theorem shownSize_cons (p : Piece) (ps : List Piece) :
    shownSize (p :: ps) = p.shown.utf8Size + shownSize ps := by
  rw [shownSize, List.map_cons, List.sum_cons, shownSize]

theorem shownSize_char (c : Char) (ps : List Piece) :
    shownSize (.char c :: ps) = c.utf8Size + shownSize ps := by
  rw [shownSize_cons, Piece.shown]

theorem utf8Size_replacement : '\ufffd'.utf8Size = 3 := by decide

theorem shownSize_broken (w : Nat) (ps : List Piece) :
    shownSize (.broken w :: ps) = 3 + shownSize ps := by
  rw [shownSize_cons, Piece.shown, utf8Size_replacement]
  exact nofun

theorem shownSize_cut (w : Nat) : shownSize [.cut w] = 3 := by
  rw [shownSize_cons, Piece.shown, utf8Size_replacement]
  · rfl
  · exact nofun

theorem length_encode_decodeLossy (bytes : List UInt8) :
    (encode (decodeLossy bytes)).length = shownSize (pieces bytes) := by
  rw [length_encode, decodeLossy, List.map_map]
  rfl

/-- A byte that continues nothing is a piece by itself. -/
theorem pieces_of_continues {b : UInt8} (h : continues b = true) (s : List UInt8) :
    pieces (b :: s) = .broken 1 :: pieces s := by
  simp only [continues, Bool.and_eq_true, decide_eq_true_eq] at h
  rw [pieces.eq_def]
  dsimp only
  rw [if_neg (by omega), if_pos]
  rw [Bool.or_eq_true, decide_eq_true_eq, decide_eq_true_eq]
  omega

/-- One more byte in front takes three more bytes to show at most: the bytes that it makes a character with
would else be shown one by one. -/
theorem shownSize_cons_le (a : UInt8) (s : List UInt8) :
    shownSize (pieces (a :: s)) ≤ 3 + shownSize (pieces s) := by
  rw [pieces.eq_def]
  dsimp only
  split
  · next ha =>
    have hw := utf8Size_ofNat_le a.toNat
    rw [if_pos ha] at hw
    rw [shownSize_char]
    omega
  split
  · rw [shownSize_broken]
  rcases s with _ | ⟨b, t⟩
  · dsimp only
    rw [shownSize_cut]
    omega
  dsimp only
  split
  · rw [shownSize_broken]
  next hb =>
  rw [Bool.not_eq_true', Bool.not_eq_false] at hb
  rw [pieces_of_continues (continues_of_follows hb), shownSize_broken]
  split
  · have hw := Char.utf8Size_le_four (Char.ofNat ((a.toNat - 0xc0) * 0x40 + payload b))
    rw [shownSize_char]
    omega
  rcases t with _ | ⟨c, u⟩
  · dsimp only
    rw [shownSize_cut]
    omega
  dsimp only
  split
  · rw [shownSize_broken]
    omega
  next hc =>
  rw [Bool.not_eq_true', Bool.not_eq_false] at hc
  rw [pieces_of_continues hc, shownSize_broken]
  split
  · rw [shownSize_char]
    have hw := Char.utf8Size_le_four
      (Char.ofNat ((a.toNat - 0xe0) * 0x1000 + payload b * 0x40 + payload c))
    omega
  rcases u with _ | ⟨d, v⟩
  · dsimp only
    rw [shownSize_cut]
    omega
  dsimp only
  split
  · rw [shownSize_broken]
    omega
  next hd =>
  rw [Bool.not_eq_true', Bool.not_eq_false] at hd
  rw [pieces_of_continues hd, shownSize_broken, shownSize_char]
  have hw := Char.utf8Size_le_four (Char.ofNat ((a.toNat - 0xf0) * 0x40000 + payload b * 0x1000
    + payload c * 0x40 + payload d))
  omega

end Garage.Text.Utf8

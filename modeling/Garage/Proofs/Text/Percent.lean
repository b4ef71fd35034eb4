import Garage.Proofs.Text.Utf8
import Garage.Text.Percent

/-!
# Decoding makes nothing longer

Percent-decoding never makes bytes more, and it makes them fewer wherever there is an escape: bytes that
keep their number are what they were. Even what is shown for decoded bytes is no longer than the text that
they were read from.
-/

namespace Garage.Text.Percent

/-! ## Escapes -/

/-- A percent sign and two hexadecimal digits. -/
def IsEscape (a b c : UInt8) : Prop :=
  a.toNat = 0x25 ∧ (digit? b).isSome = true ∧ (digit? c).isSome = true

theorem length_decodeBytes_le (bytes : List UInt8) : (decodeBytes bytes).length ≤ bytes.length := by
  fun_induction decodeBytes bytes with
  | case1 => exact Nat.le_refl _
  | case2 => exact Nat.le_refl _
  | case3 => exact Nat.le_refl _
  | case4 a b c s hi lo hc hb ih =>
    simp only [List.length_cons]
    omega
  | case5 a b c s _ ih =>
    simp only [List.length_cons] at ih ⊢
    omega

/-- Bytes that keep their number are what they were. -/
theorem decodeBytes_eq_self {bytes : List UInt8} (h : bytes.length ≤ (decodeBytes bytes).length) :
    decodeBytes bytes = bytes := by
  fun_induction decodeBytes bytes with
  | case1 => rfl
  | case2 => rfl
  | case3 => rfl
  | case4 a b c s hi lo hc hb ih =>
    have hl := length_decodeBytes_le s
    simp only [List.length_cons] at h
    omega
  | case5 a b c s _ ih =>
    rw [ih (by simpa only [List.length_cons, Nat.add_le_add_iff_right] using h)]

/-! ## Characters -/

theorem decodeBytes_append {x : List UInt8} (h : ∀ b ∈ x, b.toNat ≠ 0x25) (s : List UInt8) :
    decodeBytes (x ++ s) = x ++ decodeBytes s := by
  induction x with
  | nil => rfl
  | cons b x ih =>
    rw [List.cons_append, decodeBytes_cons_of_ne (h b List.mem_cons_self),
      ih fun b hb => h b (List.mem_cons_of_mem _ hb), List.cons_append]

theorem lt_of_digit? {b : UInt8} (h : (digit? b).isSome = true) : b.toNat < 0x80 := by
  have all : ∀ n : Fin 256, (hex? (Char.ofNat n.val)).isSome = true → n.val < 0x80 := by
    decide +kernel
  exact all ⟨b.toNat, b.toNat_lt⟩ h

theorem decodeBytes_of_isEscape {a b c : UInt8} (h : IsEscape a b c) (s : List UInt8) :
    ∃ e, decodeBytes (a :: b :: c :: s) = e :: decodeBytes s := by
  obtain ⟨ha, hb, hc⟩ := h
  obtain ⟨x, hx⟩ := Option.isSome_iff_exists.mp hb
  obtain ⟨y, hy⟩ := Option.isSome_iff_exists.mp hc
  exact ⟨_, by rw [decodeBytes, if_pos ha, hx, hy]⟩

theorem decodeBytes_of_not_isEscape {a b c : UInt8} (h : ¬ IsEscape a b c) (s : List UInt8) :
    decodeBytes (a :: b :: c :: s) = a :: decodeBytes (b :: c :: s) := by
  rw [decodeBytes]
  split
  · next hb hc =>
    split at hb
    · next ha =>
      refine absurd ⟨ha, ?_, ?_⟩ h
      · rw [hb]
        rfl
      · rw [hc]
        rfl
    · cases hb
  · rfl

/-- A character stands for itself, or it and the next two for a byte. -/
theorem decode_cons (c : Char) (cs : List Char) :
    decode (c :: cs) = String.utf8EncodeChar c ++ decode cs ∨
      ∃ x y cs' b, cs = x :: y :: cs' ∧ decode (c :: cs) = b :: decode cs' := by
  have hencode : decode (c :: cs) = decodeBytes (String.utf8EncodeChar c ++ Utf8.encode cs) := by
    rw [decode, Utf8.encode, List.flatMap_cons]
    rfl
  rw [hencode, decode]
  by_cases hc : c = '%'
  · subst hc
    have hsign : String.utf8EncodeChar '%' = [0x25] := by decide
    rw [hsign]
    rcases hs : Utf8.encode cs with _ | ⟨b, _ | ⟨d, s⟩⟩
    · exact Or.inl rfl
    · exact Or.inl rfl
    · by_cases he : IsEscape 0x25 b d
      · obtain ⟨x, cs₁, rfl, h₁⟩ := Utf8.exists_of_encode_cons hs (lt_of_digit? he.2.1)
        obtain ⟨y, cs₂, rfl, h₂⟩ := Utf8.exists_of_encode_cons h₁ (lt_of_digit? he.2.2)
        obtain ⟨e, hd⟩ := decodeBytes_of_isEscape he s
        exact Or.inr ⟨x, y, cs₂, e, rfl, by rw [decode, h₂]; exact hd⟩
      · exact Or.inl (decodeBytes_of_not_isEscape he s)
  · refine Or.inl (decodeBytes_append (fun b hb hn => ?_) _)
    rcases Utf8.mem_encodeChar hb with ⟨-, he⟩ | he
    · rw [hn] at he
      exact hc (Char.toNat_inj.mp he.symm)
    · omega

theorem takeWhile_encodeChar {c : Char} (hc : c ≠ '\x00') (s : List UInt8) :
    (String.utf8EncodeChar c ++ s).takeWhile (· != 0) =
      String.utf8EncodeChar c ++ s.takeWhile (· != 0) := by
  refine List.takeWhile_append_of_pos fun b hb => ?_
  rw [bne_iff_ne]
  rintro rfl
  rcases Utf8.mem_encodeChar hb with ⟨-, he⟩ | he
  · exact hc (Char.toNat_inj.mp he.symm)
  · exact absurd he (by decide)

/-- What is shown for a decoded text, up to its first byte of zero, is not longer than the text. -/
theorem shownSize_decode_le (cs : List Char) :
    Utf8.shownSize (Utf8.pieces ((decode cs).takeWhile (· != 0))) ≤ (Utf8.encode cs).length := by
  induction hn : cs.length using Nat.strongRecOn generalizing cs with
  | ind n ih =>
    cases cs with
    | nil => exact Nat.zero_le _
    | cons c cs =>
      have hl : (Utf8.encode (c :: cs)).length = c.utf8Size + (Utf8.encode cs).length := by
        rw [Utf8.length_encode, Utf8.length_encode, List.map_cons, List.sum_cons]
      rw [hl]
      rcases decode_cons c cs with hd | ⟨x, y, cs', b, rfl, hd⟩
      · rw [hd]
        by_cases hc : c = '\x00'
        · subst hc
          exact Nat.zero_le _
        · have hrest := ih cs.length (by rw [← hn, List.length_cons]; omega) cs rfl
          rw [takeWhile_encodeChar hc, Utf8.pieces_encodeChar, Utf8.shownSize_char]
          omega
      · have hrest := ih cs'.length (by simp only [← hn, List.length_cons]; omega) cs' rfl
        have hx := c.utf8Size_pos
        have hy := x.utf8Size_pos
        have hz := y.utf8Size_pos
        have hl' : (Utf8.encode (x :: y :: cs')).length =
            x.utf8Size + (y.utf8Size + (Utf8.encode cs').length) := by
          simp only [Utf8.length_encode, List.map_cons, List.sum_cons]
        rw [hd, hl', List.takeWhile_cons]
        split
        · have hb := Utf8.shownSize_cons_le b ((decode cs').takeWhile (· != 0))
          omega
        · exact Nat.zero_le _

end Garage.Text.Percent

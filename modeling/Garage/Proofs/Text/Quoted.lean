import Garage.Text.Digit
import Garage.Text.Quoted

/-!
# Quoted text stays on its line and can be read back

Whatever a text holds, its quoted form has no character that a log could take for the end of a line or that
a terminal would act on. Each character is quoted so that it can be told where its form ends and which
character it was, so two texts are never quoted alike.
-/

namespace Garage.Text

/-- A control character, or one that separates lines or paragraphs. -/
def Breaks (c : Char) : Prop :=
  c.toNat < 0x20 ∨ 0x7f ≤ c.toNat ∧ c.toNat ≤ 0x9f ∨ c.toNat = 0x2028 ∨ c.toNat = 0x2029

instance (c : Char) : Decidable (Breaks c) :=
  inferInstanceAs (Decidable (_ ∨ _))

/-- None of the characters breaks a line. -/
def OneLine (cs : List Char) : Prop := ∀ c ∈ cs, ¬ Breaks c

instance (cs : List Char) : Decidable (OneLine cs) :=
  List.decidableBAll (fun c => ¬ Breaks c) cs

theorem oneLine_append {cs ds : List Char} : OneLine (cs ++ ds) ↔ OneLine cs ∧ OneLine ds :=
  List.forall_mem_append

theorem oneLine_cons {c : Char} {cs : List Char} : OneLine (c :: cs) ↔ ¬ Breaks c ∧ OneLine cs :=
  List.forall_mem_cons

/-! ## Hexadecimal digits -/

theorem hex?_digitChar {n : Nat} (h : n < 16) : hex? n.digitChar = some n := by
  have all : ∀ n : Fin 16, hex? n.val.digitChar = some n.val := by decide
  exact all ⟨n, h⟩

theorem exists_of_mem_toDigits {n : Nat} {c : Char} (h : c ∈ Nat.toDigits 16 n) :
    ∃ k, k < 16 ∧ c = k.digitChar := by
  induction n using Nat.strongRecOn with
  | ind n ih =>
    rw [Nat.toDigits_eq_if (by decide)] at h
    split at h
    · next hn => exact ⟨n, hn, List.mem_singleton.mp h⟩
    · rcases List.mem_append.mp h with h | h
      · exact ih (n / 16) (by omega) h
      · exact ⟨n % 16, Nat.mod_lt _ (by decide), List.mem_singleton.mp h⟩

/-- A number is read back from its digits. -/
theorem number?_toDigits (n : Nat) : number? 16 hex? (Nat.toDigits 16 n) = some n := by
  induction n using Nat.strongRecOn with
  | ind n ih =>
    rw [Nat.toDigits_eq_if (by decide)]
    split
    · next hn =>
      rw [number?, List.foldl_cons, hex?_digitChar hn]
      exact congrArg some (Nat.zero_add n)
    · have hn := ih (n / 16) (by omega)
      rw [number?] at hn
      rw [number?, List.foldl_append, hn, List.foldl_cons, hex?_digitChar (Nat.mod_lt n (by decide))]
      exact congrArg some (Nat.div_add_mod n 16)

/-! ## One character -/

/-- A character that is shown as it is does not break a line. -/
theorem not_breaks_of_isPrintable {c : Char} (h : isPrintable c = true) : ¬ Breaks c := by
  have outside (lo hi : Nat) (hm : (lo, hi) ∈ unprintableRanges) : ¬ (lo ≤ c.toNat ∧ c.toNat ≤ hi) := by
    rintro ⟨hlo, hhi⟩
    rw [isPrintable, inRanges_of_mem hm hlo hhi] at h
    cases h
  have h₀ := outside 0x0 0x1f (by decide +kernel)
  have h₁ := outside 0x7f 0xa0 (by decide +kernel)
  have h₂ := outside 0x2028 0x202f (by decide +kernel)
  unfold Breaks
  omega

theorem oneLine_quotedChar (c : Char) : OneLine (quotedChar c) := by
  unfold quotedChar
  split
  · decide
  split
  · decide
  split
  · decide
  split
  · decide
  split
  · decide
  split
  · decide
  split
  · refine oneLine_append.mpr ⟨oneLine_append.mpr ⟨by decide, fun d hd => ?_⟩, by decide⟩
    have all : ∀ n : Fin 16, ¬ Breaks n.val.digitChar := by decide
    obtain ⟨k, hk, rfl⟩ := exists_of_mem_toDigits hd
    exact all ⟨k, hk⟩
  · next h =>
    simp only [Bool.or_eq_true, Bool.not_eq_true', not_or, Bool.not_eq_false] at h
    exact List.forall_mem_singleton.mpr (not_breaks_of_isPrintable h.2)

/-- Reads one quoted character. -/
def unquoteChar : List Char → Option (Char × List Char)
  | [] => none
  | c :: r =>
    if c ≠ '\\' then some (c, r)
    else match r with
      | [] => none
      | e :: r =>
        if e = 'n' then some ('\n', r)
        else if e = 'r' then some ('\r', r)
        else if e = 't' then some ('\t', r)
        else if e = '0' then some ('\x00', r)
        else if e = 'u' then
          (number? 16 hex? (r.tail.takeWhile (· != '\x7d'))).map fun n =>
            (Char.ofNat n, (r.dropWhile (· != '\x7d')).tail)
        else some (e, r)

/-- A quoted character is read back, and it is found where it ends. -/
theorem unquoteChar_quotedChar (c : Char) (r : List Char) :
    unquoteChar (quotedChar c ++ r) = some (c, r) := by
  by_cases h1 : c = '"'
  · subst h1
    rfl
  by_cases h2 : c = '\\'
  · subst h2
    rfl
  by_cases h3 : c = '\n'
  · subst h3
    rfl
  by_cases h4 : c = '\r'
  · subst h4
    rfl
  by_cases h5 : c = '\t'
  · subst h5
    rfl
  by_cases h6 : c = '\x00'
  · subst h6
    rfl
  rw [quotedChar, if_neg h1, if_neg h2, if_neg h3, if_neg h4, if_neg h5, if_neg h6]
  by_cases h7 : (isExtending c || !isPrintable c) = true
  · rw [if_pos h7]
    have hd : ∀ d ∈ Nat.toDigits 16 c.toNat, (d != '\x7d') = true := by
      intro d hd
      have all : ∀ n : Fin 16, (n.val.digitChar != '\x7d') = true := by decide
      obtain ⟨k, hk, rfl⟩ := exists_of_mem_toDigits hd
      exact all ⟨k, hk⟩
    show (number? 16 hex? ((Nat.toDigits 16 c.toNat ++ ['\x7d'] ++ r).takeWhile (· != '\x7d'))).map
      (fun n => (Char.ofNat n,
        (('\x7b' :: (Nat.toDigits 16 c.toNat ++ ['\x7d'] ++ r)).dropWhile (· != '\x7d')).tail)) = _
    rw [List.append_assoc, List.takeWhile_append_of_pos hd, ← List.cons_append,
      List.dropWhile_append_of_pos (List.forall_mem_cons.mpr ⟨by decide, hd⟩)]
    show (number? 16 hex? (Nat.toDigits 16 c.toNat ++ [])).map (fun n => (Char.ofNat n, r)) = _
    rw [List.append_nil, number?_toDigits, Option.map_some, Char.ofNat_toNat]
  · rw [if_neg h7]
    exact if_pos h2

/-! ## Whole texts -/

theorem oneLine_quotedList (cs : List Char) : OneLine (quotedList cs) := by
  refine oneLine_append.mpr ⟨oneLine_cons.mpr ⟨by decide, fun d hd => ?_⟩, by decide⟩
  obtain ⟨c, -, hd⟩ := List.mem_flatMap.mp hd
  exact oneLine_quotedChar c d hd

theorem flatMap_quotedChar_injective {cs ds : List Char}
    (h : cs.flatMap quotedChar = ds.flatMap quotedChar) : cs = ds := by
  have ne_nil (c : Char) (cs : List Char) : (c :: cs).flatMap quotedChar ≠ [] := by
    intro hn
    have hc := unquoteChar_quotedChar c (cs.flatMap quotedChar)
    rw [← List.flatMap_cons, hn] at hc
    cases hc
  induction cs generalizing ds with
  | nil =>
    cases ds with
    | nil => rfl
    | cons d ds => exact absurd h.symm (ne_nil d ds)
  | cons c cs ih =>
    cases ds with
    | nil => exact absurd h (ne_nil c cs)
    | cons d ds =>
      rw [List.flatMap_cons, List.flatMap_cons] at h
      have hcd := congrArg unquoteChar h
      rw [unquoteChar_quotedChar, unquoteChar_quotedChar, Option.some_inj, Prod.mk.injEq] at hcd
      rw [hcd.1, ih hcd.2]

/-- Two texts are never quoted alike. -/
theorem quoted_injective {s t : String} (h : quoted s = quoted t) : s = t := by
  have hl := congrArg String.toList h
  rw [toList_quoted, toList_quoted, quotedList, quotedList, List.append_cancel_right_eq,
    List.cons.injEq] at hl
  exact String.ext (flatMap_quotedChar_injective hl.2)

end Garage.Text

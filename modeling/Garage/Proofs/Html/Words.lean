import Garage.Html.PageText
import Garage.Proofs.Text.Case

/-!
# Words in markup

A word of a tag is looked for with its letters in either case. Such a word begins with `<` and has no
other `<`, so two places of it never overlap: what stands before the first place and behind the last one
does not matter, and where a word stands once it can be cut out in one way only.
-/

namespace Garage.Html

/-- The word stands somewhere in the text, its letters in either case. -/
def Mentions (word cs : List Char) : Prop :=
  ∃ a w b, cs = a ++ (w ++ b) ∧ w.map Char.toLower = word

theorem Mentions.append_left {word r : List Char} (h : Mentions word r) (a : List Char) :
    Mentions word (a ++ r) := by
  obtain ⟨a', w, b, rfl, hw⟩ := h
  exact ⟨a ++ a', w, b, List.append_assoc _ _ _ ▸ rfl, hw⟩

/-- No other character is a `<` in either case. -/
theorem toLower_ne_lt {c : Char} (h : c ≠ '<') : c.toLower ≠ '<' := by
  intro he
  have hn := Text.toNat_toLower c
  have hl : '<'.toNat = 60 := rfl
  rw [he, hl] at hn
  refine h (Char.toNat_inj.mp ?_)
  split at hn <;> omega

/-! ## Looking for a word -/

theorem afterWord?_eq_some_iff {word cs r : List Char} :
    afterWord? word cs = some r ↔ ∃ w, cs = w ++ r ∧ w.map Char.toLower = word := by
  induction word generalizing cs with
  | nil =>
    rw [afterWord?, Option.some.injEq]
    constructor
    · rintro rfl
      exact ⟨[], rfl, rfl⟩
    · rintro ⟨w, rfl, hw⟩
      rw [List.map_eq_nil_iff.mp hw, List.nil_append]
  | cons d ds ih =>
    cases cs with
    | nil =>
      refine iff_of_false nofun ?_
      rintro ⟨w, he, hw⟩
      rw [(List.append_eq_nil_iff.mp he.symm).1] at hw
      cases hw
    | cons c cs =>
      have hcons : (∃ w, c :: cs = w ++ r ∧ w.map Char.toLower = d :: ds) ↔
          c.toLower = d ∧ ∃ w, cs = w ++ r ∧ w.map Char.toLower = ds := by
        constructor
        · rintro ⟨_ | ⟨c', w⟩, he, hw⟩
          · cases hw
          · cases he
            cases hw
            exact ⟨rfl, w, rfl, rfl⟩
        · rintro ⟨rfl, w, rfl, rfl⟩
          exact ⟨c :: w, rfl, rfl⟩
      rw [afterWord?, hcons]
      split
      · next hc => rw [ih, and_iff_right hc]
      · next hc => exact iff_of_false nofun fun h => hc h.1

theorem afterFirst?_of_afterWord? {word cs r : List Char} (h : afterWord? word cs = some r) :
    afterFirst? word cs = some r := by
  cases cs with
  | nil => exact h
  | cons c cs => rw [afterFirst?, h, Option.some_or]

theorem exists_of_afterFirst? {word cs r : List Char} (h : afterFirst? word cs = some r) :
    ∃ a w, cs = a ++ (w ++ r) ∧ w.map Char.toLower = word := by
  induction cs with
  | nil =>
    obtain ⟨w, he, hw⟩ := afterWord?_eq_some_iff.mp h
    exact ⟨[], w, he, hw⟩
  | cons c cs ih =>
    rw [afterFirst?, Option.or_eq_some_iff] at h
    rcases h with h | ⟨-, h⟩
    · obtain ⟨w, he, hw⟩ := afterWord?_eq_some_iff.mp h
      exact ⟨[], w, he, hw⟩
    · obtain ⟨a, w, rfl, hw⟩ := ih h
      exact ⟨c :: a, w, rfl, hw⟩

theorem afterFirst?_eq_none_iff {word cs : List Char} :
    afterFirst? word cs = none ↔ ¬ Mentions word cs := by
  constructor
  · rintro h ⟨a, w, b, rfl, hw⟩
    induction a with
    | nil =>
      have hb := afterFirst?_of_afterWord? (afterWord?_eq_some_iff.mpr ⟨w, rfl, hw⟩ :
        afterWord? word (w ++ b) = some b)
      rw [List.nil_append, hb] at h
      cases h
    | cons c a ih =>
      rw [List.cons_append, afterFirst?, Option.or_eq_none_iff] at h
      exact ih h.2
  · intro h
    cases hr : afterFirst? word cs with
    | none => rfl
    | some r =>
      obtain ⟨a, w, he, hw⟩ := exists_of_afterFirst? hr
      exact absurd ⟨a, w, r, he, hw⟩ h

theorem exists_of_beforeLast? {word cs b : List Char} (h : beforeLast? word cs = some b) :
    ∃ w r, cs = b ++ (w ++ r) ∧ w.map Char.toLower = word := by
  induction cs generalizing b with
  | nil =>
    obtain ⟨r, hr, rfl⟩ := Option.map_eq_some_iff.mp h
    obtain ⟨w, he, hw⟩ := afterWord?_eq_some_iff.mp hr
    exact ⟨w, r, he, hw⟩
  | cons c cs ih =>
    rw [beforeLast?] at h
    split at h
    · next b' hb =>
      cases h
      obtain ⟨w, r, rfl, hw⟩ := ih hb
      exact ⟨w, r, rfl, hw⟩
    · obtain ⟨r, hr, rfl⟩ := Option.map_eq_some_iff.mp h
      obtain ⟨w, he, hw⟩ := afterWord?_eq_some_iff.mp hr
      exact ⟨w, r, he, hw⟩

theorem beforeLast?_eq_none {word cs : List Char} (h : ¬ Mentions word cs) :
    beforeLast? word cs = none := by
  cases hb : beforeLast? word cs with
  | none => rfl
  | some b =>
    obtain ⟨w, r, he, hw⟩ := exists_of_beforeLast? hb
    exact absurd ⟨b, w, r, he, hw⟩ h

/-- The last place of a word is looked for from the end, so what stands before it does not matter. -/
theorem beforeLast?_append {word r b : List Char} (h : beforeLast? word r = some b) (a : List Char) :
    beforeLast? word (a ++ r) = some (a ++ b) := by
  induction a with
  | nil => exact h
  | cons c a ih => rw [List.cons_append, beforeLast?, ih, List.cons_append]

/-! ## Words that begin with `<` -/

section Words

variable {ws w w' r r' a : List Char}

/-- A word that begins with `<` is not met where there is none. -/
theorem afterFirst?_append (h : '<' ∉ a) (r : List Char) :
    afterFirst? ('<' :: ws) (a ++ r) = afterFirst? ('<' :: ws) r := by
  induction a with
  | nil => rfl
  | cons c a ih =>
    rw [List.mem_cons, not_or] at h
    rw [List.cons_append, afterFirst?, afterWord?, if_neg (toLower_ne_lt (Ne.symm h.1)),
      Option.none_or, ih h.2]

theorem not_mentions_append (h : '<' ∉ a) (hr : ¬ Mentions ('<' :: ws) r) :
    ¬ Mentions ('<' :: ws) (a ++ r) := by
  rw [← afterFirst?_eq_none_iff, afterFirst?_append h, afterFirst?_eq_none_iff]
  exact hr

/-- Two places of such a word do not overlap: one that begins before the other also ends before it. -/
theorem eq_append_of_overlap (hs : '<' ∉ ws) (hw : w.map Char.toLower = '<' :: ws)
    (hw' : w'.map Char.toLower = '<' :: ws) (ha : a ≠ []) (he : w ++ r = a ++ (w' ++ r')) :
    ∃ y, a = w ++ y ∧ r = y ++ (w' ++ r') := by
  rcases List.append_eq_append_iff.mp he with ⟨y, hy, hr⟩ | ⟨y, hy, hr⟩
  · exact ⟨y, hy, hr⟩
  · cases y with
    | nil => exact ⟨[], by rw [hy, List.append_nil, List.append_nil], hr.symm⟩
    | cons c y =>
      -- The second place would begin inside the first, with a `<` that is not there.
      obtain ⟨c', a', rfl⟩ := List.exists_cons_of_ne_nil ha
      obtain ⟨d, v, rfl⟩ : ∃ d v, w' = d :: v := by
        cases w' with
        | nil => cases hw'
        | cons d v => exact ⟨d, v, rfl⟩
      have hd : d.toLower = '<' := (List.cons.inj hw').1
      rw [List.cons_append, List.cons_append, List.cons.injEq] at hr
      rw [hy, ← hr.1, List.cons_append, List.map_cons, List.cons.injEq, List.map_append, List.map_cons,
        hd] at hw
      exact absurd (hw.2 ▸ List.mem_append_right _ List.mem_cons_self) hs

/-- The first place of such a word is where it is put, if it is not mentioned before. -/
theorem afterFirst?_append_word (hs : '<' ∉ ws) (hw : w.map Char.toLower = '<' :: ws)
    (ha : ¬ Mentions ('<' :: ws) a) (r : List Char) :
    afterFirst? ('<' :: ws) (a ++ (w ++ r)) = some r := by
  induction a with
  | nil => exact afterFirst?_of_afterWord? (afterWord?_eq_some_iff.mpr ⟨w, rfl, hw⟩)
  | cons c a ih =>
    have hnot : afterWord? ('<' :: ws) (c :: a ++ (w ++ r)) = none := by
      cases hv : afterWord? ('<' :: ws) (c :: a ++ (w ++ r)) with
      | none => rfl
      | some s =>
        obtain ⟨v, he, hv⟩ := afterWord?_eq_some_iff.mp hv
        obtain ⟨y, hy, -⟩ := eq_append_of_overlap hs hv hw (List.cons_ne_nil c a) he.symm
        exact absurd ⟨[], v, y, hy, hv⟩ ha
    rw [List.cons_append, afterFirst?, ← List.cons_append, hnot, Option.none_or]
    exact ih fun hm => ha (hm.append_left [c])

/-- The last place of such a word is where it is put, if it is not mentioned behind. -/
theorem beforeLast?_append_word (hs : '<' ∉ ws) (hw : w.map Char.toLower = '<' :: ws)
    (hr : ¬ Mentions ('<' :: ws) r) (a : List Char) :
    beforeLast? ('<' :: ws) (a ++ (w ++ r)) = some a := by
  cases w with
  | nil => cases hw
  | cons c w =>
    have htail : '<' ∉ w := by
      intro hm
      have hl : '<' ∈ w.map Char.toLower := List.mem_map.mpr ⟨'<', hm, rfl⟩
      rw [(List.cons.inj hw).2] at hl
      exact hs hl
    have hnone := beforeLast?_eq_none (not_mentions_append htail hr)
    have hword : afterWord? ('<' :: ws) (c :: (w ++ r)) = some r :=
      afterWord?_eq_some_iff.mpr ⟨c :: w, rfl, hw⟩
    have hb : beforeLast? ('<' :: ws) (c :: w ++ r) = some [] := by
      rw [List.cons_append, beforeLast?, hnone, hword, Option.map_some]
    rw [beforeLast?_append hb, List.append_nil]

/-- A text is cut in one way at such a word, if neither part mentions it. -/
theorem eq_of_cut {b : List Char} (hs : '<' ∉ ws) (hw : w.map Char.toLower = '<' :: ws)
    (ha : ¬ Mentions ('<' :: ws) a) (hb : ¬ Mentions ('<' :: ws) b)
    (he : a ++ (w ++ b) = r ++ (w ++ r')) : a = r ∧ b = r' := by
  rcases List.append_eq_append_iff.mp he with ⟨y, rfl, hy⟩ | ⟨y, rfl, hy⟩
  · by_cases hne : y = []
    · subst hne
      exact ⟨(List.append_nil a).symm, List.append_cancel_left hy⟩
    · obtain ⟨z, -, rfl⟩ := eq_append_of_overlap hs hw hw hne hy
      exact absurd ⟨z, w, r', rfl, hw⟩ hb
  · by_cases hne : y = []
    · subst hne
      exact ⟨List.append_nil r, (List.append_cancel_left hy).symm⟩
    · obtain ⟨z, rfl, -⟩ := eq_append_of_overlap hs hw hw hne hy
      exact absurd ⟨r, w, z, rfl, hw⟩ ha

/-- The text stands between the two words somewhere. -/
def StandsBetween (opening closing cs inner : List Char) : Prop :=
  ∃ a b, cs = a ++ (opening ++ (inner ++ (closing ++ b)))

/-- Where two such words stand once each, one text stands between them. -/
theorem standsBetween_iff {ws' front inner rest text : List Char} (hs : '<' ∉ ws) (hs' : '<' ∉ ws')
    (hw : ws.map Char.toLower = ws) (hw' : ws'.map Char.toLower = ws')
    (hfront : ¬ Mentions ('<' :: ws) front)
    (hback : ¬ Mentions ('<' :: ws) (text ++ ('<' :: ws' ++ rest)))
    (htext : ¬ Mentions ('<' :: ws') text) (hrest : ¬ Mentions ('<' :: ws') rest) :
    StandsBetween ('<' :: ws) ('<' :: ws')
      (front ++ ('<' :: ws ++ (text ++ ('<' :: ws' ++ rest)))) inner ↔ inner = text := by
  have hlower : ∀ vs : List Char, vs.map Char.toLower = vs →
      ('<' :: vs).map Char.toLower = '<' :: vs := fun vs h => congrArg (List.cons '<') h
  constructor
  · rintro ⟨a, b, he⟩
    obtain ⟨-, hinner⟩ := eq_of_cut hs (hlower ws hw) hfront hback he
    exact (eq_of_cut hs' (hlower ws' hw') htext hrest hinner).1.symm
  · rintro rfl
    exact ⟨front, rest, rfl⟩

end Words

end Garage.Html

import Garage.Proofs.Html.Tags

/-!
# Removing tags once and for all

One pass from the left removes every tag, those included that might arise where the pieces around a removed
tag come together: what the pass has kept so far holds no `<`, so only a later `<` can open a tag. Hence a
second pass finds nothing, and a text changes only if a `<` of it is closed.
-/

namespace Garage.Html

/-! ## Brackets that are closed -/

/-- A `<` of the text is followed by a `>`, however far behind. -/
def HasClosed (cs : List Char) : Prop :=
  ∃ a b c, cs = a ++ '<' :: (b ++ '>' :: c)

theorem not_hasClosed_of_not_mem {cs : List Char} (h : '<' ∉ cs) : ¬ HasClosed cs := by
  rintro ⟨a, b, c, rfl⟩
  exact h (List.mem_append_right a List.mem_cons_self)

theorem hasClosed_cons_of_ne {c : Char} (h : c ≠ '<') {r : List Char} :
    HasClosed (c :: r) ↔ HasClosed r := by
  constructor
  · rintro ⟨_ | ⟨d, a⟩, b, e, he⟩
    · exact absurd (List.cons.inj he).1 h
    · exact ⟨a, b, e, (List.cons.inj he).2⟩
  · rintro ⟨a, b, e, rfl⟩
    exact ⟨c :: a, b, e, rfl⟩

theorem hasClosed_lt_cons {r : List Char} : HasClosed ('<' :: r) ↔ '>' ∈ r := by
  constructor
  · rintro ⟨_ | ⟨d, a⟩, b, e, he⟩
    · rw [(List.cons.inj he).2]
      exact List.mem_append_right b List.mem_cons_self
    · rw [(List.cons.inj he).2]
      exact List.mem_append_right a (List.mem_cons_of_mem _ (List.mem_append_right b List.mem_cons_self))
  · intro h
    obtain ⟨b, e, rfl⟩ := List.mem_iff_append.mp h
    exact ⟨[], b, e, rfl⟩

/-! ## What one pass leaves -/

/-- What is kept before the scan ends has no `<`, so nothing behind a removed tag can complete a tag. -/
theorem not_hasClosed_stripTags (cs : List Char) : ¬ HasClosed (stripTags cs) := by
  induction cs using stripTags.induct with
  | case1 =>
    rw [stripTags_nil]
    exact not_hasClosed_of_not_mem List.not_mem_nil
  | case2 r t ht ih =>
    rw [stripTags_of_closed ht]
    exact ih
  | case3 r hr =>
    rw [stripTags_of_unclosed hr, hasClosed_lt_cons]
    exact afterTag?_eq_none_iff.mp hr
  | case4 c r hc ih =>
    rw [stripTags_cons_of_ne hc, hasClosed_cons_of_ne hc]
    exact ih

theorem stripTags_of_not_hasClosed {cs : List Char} (h : ¬ HasClosed cs) : stripTags cs = cs := by
  induction cs with
  | nil => exact stripTags_nil
  | cons c r ih =>
    by_cases hc : c = '<'
    · subst hc
      rw [hasClosed_lt_cons] at h
      exact stripTags_of_unclosed (afterTag?_eq_none_iff.mpr h)
    · rw [hasClosed_cons_of_ne hc] at h
      rw [stripTags_cons_of_ne hc, ih h]

theorem stripTags_eq_self_iff {cs : List Char} : stripTags cs = cs ↔ ¬ HasClosed cs := by
  refine ⟨fun h => ?_, stripTags_of_not_hasClosed⟩
  rw [← h]
  exact not_hasClosed_stripTags cs

/-- Behind a text of which no `<` is left, tags are read as if nothing stood before them. -/
theorem stripTags_append {a : List Char} (h : '<' ∉ stripTags a) (b : List Char) :
    stripTags (a ++ b) = stripTags a ++ stripTags b := by
  induction a using stripTags.induct with
  | case1 => rw [stripTags_nil, List.nil_append, List.nil_append]
  | case2 r t ht ih =>
    rw [stripTags_of_closed ht] at h ⊢
    obtain ⟨inside, rfl, hinside⟩ := exists_of_afterTag? ht
    rw [List.cons_append, List.append_assoc, List.cons_append, stripTags_tag_append hinside, ih h]
  | case3 r hr =>
    -- An open `<` would be left, which `b` might close.
    rw [stripTags_of_unclosed hr] at h
    exact absurd List.mem_cons_self h
  | case4 c r hc ih =>
    rw [stripTags_cons_of_ne hc, List.mem_cons, not_or] at h
    rw [List.cons_append, stripTags_cons_of_ne hc, stripTags_cons_of_ne hc, ih h.2, List.cons_append]

/-! ## Tags from the left -/

/-- A whole tag: it has no `>` but the one that ends it. -/
def IsTag (cs : List Char) : Prop :=
  ∃ inside, cs = '<' :: (inside ++ ['>']) ∧ '>' ∉ inside

/-- Behind `before` stands a tag, and no tag begins in `before`. -/
structure FirstTag (before tag after : List Char) : Prop where
  isTag : IsTag tag
  first : ∀ a t b, before ++ (tag ++ after) = a ++ (t ++ b) → IsTag t → before.length ≤ a.length

/-- What is left of a text when its first tag is taken out, then the first one of what follows that tag, and
so on to the last. -/
inductive Untagged : List Char → List Char → Prop where
  | untouched {cs : List Char} (no_tag : ∀ a t b, cs = a ++ (t ++ b) → ¬ IsTag t) : Untagged cs cs
  | removed {before tag after rest : List Char} (found : FirstTag before tag after)
      (others : Untagged after rest) : Untagged (before ++ (tag ++ after)) (before ++ rest)

/-- Where a `<` is closed, a tag begins at that `<`. -/
theorem exists_isTag (a b c : List Char) :
    ∃ t d, a ++ '<' :: (b ++ '>' :: c) = a ++ (t ++ d) ∧ IsTag t := by
  have hsome : afterTag? (b ++ '>' :: c) ≠ none := by
    rw [Ne, afterTag?_eq_none_iff, not_not]
    exact List.mem_append_right b List.mem_cons_self
  obtain ⟨d, hd⟩ := Option.ne_none_iff_exists'.mp hsome
  obtain ⟨inside, he, hinside⟩ := exists_of_afterTag? hd
  refine ⟨'<' :: (inside ++ ['>']), d, ?_, inside, rfl, hinside⟩
  rw [he, List.cons_append, List.append_assoc, List.singleton_append]

theorem no_tag_iff {cs : List Char} :
    (∀ a t b, cs = a ++ (t ++ b) → ¬ IsTag t) ↔ ¬ HasClosed cs := by
  constructor
  · rintro h ⟨a, b, c, rfl⟩
    obtain ⟨t, d, he, ht⟩ := exists_isTag a b c
    exact h a t d he ht
  · rintro h a t b rfl ⟨inside, rfl, -⟩
    refine h ⟨a, inside, b, ?_⟩
    rw [List.cons_append, List.append_assoc, List.singleton_append]

/-- Before the first tag no bracket is opened. -/
theorem FirstTag.lt_not_mem {before tag after : List Char} (h : FirstTag before tag after) :
    '<' ∉ before := by
  intro hm
  obtain ⟨a, b, rfl⟩ := List.mem_iff_append.mp hm
  obtain ⟨inside, rfl, -⟩ := h.isTag
  obtain ⟨t, d, he, ht⟩ := exists_isTag a (b ++ '<' :: inside) after
  have hle := h.first a t d (by rw [← he]; simp) ht
  rw [List.length_append, List.length_cons] at hle
  omega

theorem Untagged.eq_stripTags {cs rest : List Char} (h : Untagged cs rest) : rest = stripTags cs := by
  induction h with
  | untouched hnone => rw [stripTags_of_not_hasClosed (no_tag_iff.mp hnone)]
  | removed found _ ih =>
    obtain ⟨inside, rfl, hinside⟩ := found.isTag
    rw [stripTags_text_append found.lt_not_mem, List.cons_append, List.append_assoc,
      List.singleton_append, stripTags_tag_append hinside, ih]

/-- A character that opens no bracket is kept, and the tags behind it are the same. -/
theorem Untagged.cons {c : Char} (hc : c ≠ '<') {cs rest : List Char} (h : Untagged cs rest) :
    Untagged (c :: cs) (c :: rest) := by
  cases h with
  | untouched hnone =>
    refine .untouched (no_tag_iff.mpr ?_)
    rw [hasClosed_cons_of_ne hc]
    exact no_tag_iff.mp hnone
  | @removed before tag after rest found others =>
    refine @Untagged.removed (c :: before) tag after rest ⟨found.isTag, ?_⟩ others
    rintro (_ | ⟨d, a⟩) t b he ht
    · obtain ⟨inside, rfl, -⟩ := ht
      exact absurd (List.cons.inj he).1 hc
    · exact Nat.succ_le_succ (found.first a t b (List.cons.inj he).2 ht)

theorem untagged_stripTags (cs : List Char) : Untagged cs (stripTags cs) := by
  induction cs using stripTags.induct with
  | case1 =>
    rw [stripTags_nil]
    exact .untouched (no_tag_iff.mpr (not_hasClosed_of_not_mem List.not_mem_nil))
  | case2 r t ht ih =>
    rw [stripTags_of_closed ht]
    obtain ⟨inside, rfl, hinside⟩ := exists_of_afterTag? ht
    have hfound : FirstTag [] ('<' :: (inside ++ ['>'])) t :=
      ⟨⟨inside, rfl, hinside⟩, fun _ _ _ _ _ => Nat.zero_le _⟩
    have h := Untagged.removed hfound ih
    rwa [List.nil_append, List.nil_append, List.cons_append, List.append_assoc,
      List.singleton_append] at h
  | case3 r hr =>
    rw [stripTags_of_unclosed hr]
    refine .untouched (no_tag_iff.mpr ?_)
    rw [hasClosed_lt_cons]
    exact afterTag?_eq_none_iff.mp hr
  | case4 c r hc ih =>
    rw [stripTags_cons_of_ne hc]
    exact ih.cons hc

/-! ## One pass is enough -/

/-- Removing tags takes out the first tag, then the first one of what follows, to the last. After that no `<` is
closed, so another pass changes nothing, and a text in which none is closed stays as it is. Texts whose `<`
are all gone may be read apart from what follows them. -/
theorem stripTags_complete (cs : List Char) :
    (∀ rest, Untagged cs rest ↔ rest = stripTags cs) ∧
      ¬ HasClosed (stripTags cs) ∧
      stripTags (stripTags cs) = stripTags cs ∧
      (stripTags cs = cs ↔ ¬ HasClosed cs) ∧
      ∀ following, '<' ∉ stripTags cs →
        stripTags (cs ++ following) = stripTags cs ++ stripTags following := by
  have hclosed := not_hasClosed_stripTags cs
  refine ⟨fun rest => ⟨Untagged.eq_stripTags, ?_⟩, hclosed, stripTags_of_not_hasClosed hclosed,
    stripTags_eq_self_iff, fun following h => stripTags_append h following⟩
  rintro rfl
  exact untagged_stripTags cs

/-- A tag in a tag leaves a `>`, which closes nothing; a `<` that is never closed stays. -/
theorem stripTags_complete_of_nested :
    '<' ∉ stripTags "a<<b>>c".toList ∧
      stripTags ("a<<b>>c".toList ++ "<<i>d<".toList) = "a>c".toList ++ "d<".toList := by
  have hfirst : stripTags "a<<b>>c".toList = "a>c".toList := by cbv
  have hsecond : stripTags "<<i>d<".toList = "d<".toList := by cbv
  have hlt : '<' ∉ stripTags "a<<b>>c".toList := by
    rw [hfirst]
    decide
  refine ⟨hlt, ?_⟩
  rw [(stripTags_complete _).2.2.2.2 _ hlt, hfirst, hsecond]

end Garage.Html

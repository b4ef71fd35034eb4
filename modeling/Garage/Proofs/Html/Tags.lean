import Garage.Html.PageText
import Mathlib.Data.List.TakeWhile

/-!
# Tags and the text between them

`tags` lists what `stripTags` removes. Text without `<` is passed over by the one and kept by the other, and
a tag is listed or removed with all that it holds up to its `>`.
-/

namespace Garage.Html

/-- The tags of a text, in order: each is a `<` and all that follows it up to the next `>`. A `<` that no `>`
follows begins none. -/
def tags : List Char → List (List Char)
  | [] => []
  | c :: r =>
    if c = '<' then
      match _h : afterTag? r with
      | some t => ('<' :: (r.takeWhile (· != '>') ++ ['>'])) :: tags t
      | none => []
    else tags r
termination_by cs => cs.length
decreasing_by
  all_goals simp only [List.length_cons]
  · have := afterTag?_shorter _h
    omega
  · omega

@[simp] theorem tags_nil : tags [] = [] := by
  rw [tags]

theorem tags_cons_of_ne {c : Char} (h : c ≠ '<') (r : List Char) : tags (c :: r) = tags r := by
  rw [tags, if_neg h]

theorem tags_text_append {a : List Char} (h : '<' ∉ a) (r : List Char) : tags (a ++ r) = tags r := by
  induction a with
  | nil => rfl
  | cons c a ih =>
    rw [List.mem_cons, not_or] at h
    rw [List.cons_append, tags_cons_of_ne (Ne.symm h.1), ih h.2]

theorem tags_tag_append {a : List Char} (h : '>' ∉ a) (r : List Char) :
    tags ('<' :: (a ++ '>' :: r)) = ('<' :: (a ++ ['>'])) :: tags r := by
  have hinside : ∀ c ∈ a, (c != '>') = true := by
    intro c hc
    rw [bne_iff_ne]
    rintro rfl
    exact h hc
  have htake : (a ++ '>' :: r).takeWhile (· != '>') = a := by
    rw [List.takeWhile_append_of_pos hinside]
    exact List.append_nil a
  rw [tags, if_pos rfl]
  split
  · next t ht =>
    rw [afterTag?_append h] at ht
    cases ht
    rw [htake]
  · next hn =>
    rw [afterTag?_append h] at hn
    cases hn

theorem exists_of_afterTag? {cs r : List Char} (h : afterTag? cs = some r) :
    ∃ a, cs = a ++ '>' :: r ∧ '>' ∉ a := by
  induction cs with
  | nil => cases h
  | cons c cs ih =>
    by_cases hc : c = '>'
    · subst hc
      cases h
      exact ⟨[], rfl, List.not_mem_nil⟩
    · rw [afterTag?_cons_of_ne hc] at h
      obtain ⟨a, rfl, ha⟩ := ih h
      refine ⟨c :: a, rfl, ?_⟩
      rw [List.mem_cons, not_or]
      exact ⟨Ne.symm hc, ha⟩

theorem stripTags_text_append {a : List Char} (h : '<' ∉ a) (r : List Char) :
    stripTags (a ++ r) = a ++ stripTags r := by
  induction a with
  | nil => rfl
  | cons c a ih =>
    rw [List.mem_cons, not_or] at h
    rw [List.cons_append, stripTags_cons_of_ne (Ne.symm h.1), ih h.2, List.cons_append]

theorem stripTags_tag_append {a : List Char} (h : '>' ∉ a) (r : List Char) :
    stripTags ('<' :: (a ++ '>' :: r)) = stripTags r :=
  stripTags_of_closed (afterTag?_append h r)

/-- What has no `<` has no tag. -/
theorem stripTags_eq_self {cs : List Char} (h : '<' ∉ cs) : stripTags cs = cs := by
  rw [← List.append_nil cs, stripTags_text_append h, stripTags_nil]

end Garage.Html

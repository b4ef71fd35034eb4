import Garage.Html.Entity

/-!
The text of a page: what its body holds, without tags and with references decoded. White space stays.
-/

namespace Garage.Html

/-- What follows `word` at the start of a text, its letters in either case; `word` is in lower case. -/
def afterWord? : List Char → List Char → Option (List Char)
  | [], cs => some cs
  | _ :: _, [] => none
  | w :: ws, c :: cs => if c.toLower = w then afterWord? ws cs else none

/-- What follows the first place where `word` stands. -/
def afterFirst? (word : List Char) : List Char → Option (List Char)
  | [] => afterWord? word []
  | c :: r => (afterWord? word (c :: r)).or (afterFirst? word r)

/-- What precedes the last place where `word` stands. -/
def beforeLast? (word : List Char) : List Char → Option (List Char)
  | [] => (afterWord? word []).map fun _ => []
  | c :: r =>
    match beforeLast? word r with
    | some b => some (c :: b)
    | none => (afterWord? word (c :: r)).map fun _ => []

def afterTag? (cs : List Char) : Option (List Char) :=
  match cs.dropWhile (· != '>') with
  | [] => none
  | _ :: r => some r

/-- The inside of the body: from the first opening tag of a body to the last closing one. -/
def bodyInside? (cs : List Char) : Option (List Char) := do
  let inTag ← afterFirst? ['<', 'b', 'o', 'd', 'y'] cs
  beforeLast? ['<', '/', 'b', 'o', 'd', 'y', '>'] (← afterTag? inTag)

theorem afterTag?_shorter {cs r : List Char} (h : afterTag? cs = some r) : r.length < cs.length := by
  have := (List.dropWhile_sublist (· != '>') (l := cs)).length_le
  unfold afterTag? at h
  split at h
  · cases h
  · next hd =>
    cases h
    rw [hd, List.length_cons] at this
    omega

theorem afterTag?_append {a : List Char} (h : '>' ∉ a) (r : List Char) :
    afterTag? (a ++ '>' :: r) = some r := by
  have inside : ∀ c ∈ a, (c != '>') = true := by
    intro c hc
    simp only [bne_iff_ne, ne_eq]
    rintro rfl
    exact h hc
  simp [afterTag?, List.dropWhile_append_of_pos inside]

theorem afterTag?_cons_of_ne {c : Char} (h : c ≠ '>') (r : List Char) :
    afterTag? (c :: r) = afterTag? r := by
  simp [afterTag?, h]

theorem afterTag?_eq_none_iff {cs : List Char} : afterTag? cs = none ↔ '>' ∉ cs := by
  induction cs with
  | nil => simp [afterTag?]
  | cons c r ih =>
    by_cases hc : c = '>'
    · subst hc
      simp [afterTag?]
    · rw [afterTag?_cons_of_ne hc, ih, List.mem_cons, not_or]
      exact ⟨fun h => ⟨fun he => hc he.symm, h⟩, And.right⟩

/-- Removes every tag: a `<` and all that follows it up to the next `>`. A `<` that no `>` follows
stays. -/
def stripTags : List Char → List Char
  | [] => []
  | c :: r =>
    if c = '<' then
      match _h : afterTag? r with
      | some t => stripTags t
      | none => c :: r
    else c :: stripTags r
termination_by cs => cs.length
decreasing_by
  all_goals simp only [List.length_cons]
  · have := afterTag?_shorter _h
    omega
  · omega

@[simp] theorem stripTags_nil : stripTags [] = [] := by
  simp [stripTags]

theorem stripTags_cons_of_ne {c : Char} (h : c ≠ '<') (r : List Char) :
    stripTags (c :: r) = c :: stripTags r := by
  rw [stripTags, if_neg h]

theorem stripTags_of_closed {r t : List Char} (h : afterTag? r = some t) :
    stripTags ('<' :: r) = stripTags t := by
  rw [stripTags, if_pos rfl]
  split
  · next t' h' => rw [h] at h'; cases h'; rfl
  · next h' => rw [h] at h'; cases h'

/-- A `<` that nothing closes stays, with all that follows it. -/
theorem stripTags_of_unclosed {r : List Char} (h : afterTag? r = none) :
    stripTags ('<' :: r) = '<' :: r := by
  rw [stripTags, if_pos rfl]
  split
  · next t h' => rw [h] at h'; cases h'
  · rfl

/-- The text of a page; it is empty if the page has no body. -/
def bodyText (markup : String) : String :=
  String.ofList (decodeReferences (stripTags ((bodyInside? markup.toList).getD [])))

end Garage.Html

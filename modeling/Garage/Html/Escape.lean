/-! Text inside HTML: the five characters that markup is made of are written as references. -/

namespace Garage.Html

/-- One character of a text inside HTML. -/
def escapeChar (c : Char) : List Char :=
  if c = '&' then ['&', '#', '3', '8', ';']
  else if c = '<' then ['&', '#', '6', '0', ';']
  else if c = '>' then ['&', '#', '6', '2', ';']
  else if c = '"' then ['&', '#', '3', '4', ';']
  else if c = '\'' then ['&', '#', '3', '9', ';']
  else [c]

/-- A text inside HTML. -/
def escape (cs : List Char) : List Char :=
  cs.flatMap escapeChar

@[simp] theorem escape_nil : escape [] = [] := rfl

@[simp] theorem escape_cons (c : Char) (cs : List Char) :
    escape (c :: cs) = escapeChar c ++ escape cs := rfl

@[simp] theorem escape_append (a b : List Char) : escape (a ++ b) = escape a ++ escape b :=
  List.flatMap_append

/-- No markup character is left but the one that starts a reference. -/
theorem ne_of_mem_escape {c : Char} {cs : List Char} (h : c ∈ escape cs) :
    c ≠ '<' ∧ c ≠ '>' ∧ c ≠ '"' := by
  obtain ⟨d, -, hc⟩ := List.mem_flatMap.1 h
  unfold escapeChar at hc
  repeat' split at hc
  all_goals simp only [List.mem_cons, List.not_mem_nil, or_false] at hc
  all_goals first
    | (rcases hc with rfl | rfl | rfl | rfl | rfl <;> decide)
    | (subst hc; exact ⟨‹_›, ‹_›, ‹_›⟩)

end Garage.Html

import Garage.Proofs.Html.BodyText

/-!
# The markup of the two pages

Whatever is put into a page, its tags are those of the template, one after the other: what is put in is
escaped, so no `<` of it reaches the page. The title stands in one place only, and it reads as the username
behind its words.
-/

namespace Garage.Html

/-! ## Tags -/

/-- Tags, given by what they hold, with text behind each of them. -/
def markedUp (pieces : List (List Char × List Char)) : List Char :=
  pieces.flatMap fun piece => '<' :: (piece.1 ++ '>' :: piece.2)

theorem tags_markedUp {pieces : List (List Char × List Char)}
    (h : ∀ piece ∈ pieces, '>' ∉ piece.1 ∧ '<' ∉ piece.2) :
    tags (markedUp pieces) = pieces.map fun piece => '<' :: (piece.1 ++ ['>']) := by
  induction pieces with
  | nil => exact tags_nil
  | cons piece rest ih =>
    obtain ⟨htag, htext⟩ := h piece List.mem_cons_self
    have hrest := ih fun p hp => h p (List.mem_cons_of_mem piece hp)
    rw [markedUp, List.flatMap_cons, ← markedUp, List.cons_append, List.append_assoc, List.cons_append,
      tags_tag_append htag, tags_text_append htext, hrest, List.map_cons]

/-- A page as tags with text behind them. -/
def pagePieces (title body : List Char) : List (List Char × List Char) :=
  [("!DOCTYPE html".toList, ['\n']), ("html lang=\"en\"".toList, ['\n']), ("head".toList, ['\n']),
    ("meta charset=\"utf-8\"".toList, ['\n']), ("title".toList, title), ("/title".toList, ['\n']),
    ("/head".toList, ['\n']), ("body".toList, body), ("/body".toList, ['\n']), ("/html".toList, [])]

/-- The tags of the template. -/
def pageTags : List (List Char) :=
  ["<!DOCTYPE html>".toList, "<html lang=\"en\">".toList, "<head>".toList,
    "<meta charset=\"utf-8\">".toList, "<title>".toList, "</title>".toList, "</head>".toList,
    "<body>".toList, "</body>".toList, "</html>".toList]

theorem page_eq_markedUp (title body : List Char) :
    page title body = markedUp (pagePieces title body) := by
  rw [page_eq]
  rfl

/-- A title and a body without `<` add no tag. -/
theorem tags_page {title body : List Char} (ht : '<' ∉ title) (hb : '<' ∉ body) :
    tags (page title body) = pageTags := by
  rw [page_eq_markedUp, tags_markedUp]
  · rfl
  · intro piece hm
    simp only [pagePieces, List.mem_cons, List.not_mem_nil, or_false] at hm
    rcases hm with rfl | rfl | rfl | rfl | rfl | rfl | rfl | rfl | rfl | rfl
    case inr.inr.inr.inr.inl => exact ⟨show '>' ∉ "title".toList by decide, ht⟩
    case inr.inr.inr.inr.inr.inr.inr.inl => exact ⟨show '>' ∉ "body".toList by decide, hb⟩
    all_goals decide

/-! ## The title -/

/-- The markup of a page before its title's tag. -/
def front : List Char :=
  "<!DOCTYPE html>\n<html lang=\"en\">\n<head>\n<meta charset=\"utf-8\">\n".toList

/-- The markup of a page from its title to its body. -/
def betweenTitleAndBody : List Char := "\n</head>\n<body>".toList

theorem page_eq_title (title body : List Char) :
    page title body = front ++ ("<title>".toList ++ (title ++
      ("</title>".toList ++ (betweenTitleAndBody ++ (body ++ afterBody))))) := by
  have hbefore : beforeTitle = front ++ "<title>".toList := by
    unfold beforeTitle front
    rfl
  have hafter : afterTitle = "</title>".toList ++ betweenTitleAndBody := by
    unfold afterTitle betweenTitleAndBody
    rfl
  rw [page_eq, hbefore, hafter, List.append_assoc, List.append_assoc]

theorem afterFirst?_titleTag (r : List Char) :
    afterFirst? ['<', 't', 'i', 't', 'l', 'e', '>'] ("</title>".toList ++ (betweenTitleAndBody ++ r)) =
      afterFirst? ['<', 't', 'i', 't', 'l', 'e', '>'] r := rfl

theorem afterFirst?_endOfTitle (r : List Char) :
    afterFirst? ['<', '/', 't', 'i', 't', 'l', 'e', '>'] (betweenTitleAndBody ++ r) =
      afterFirst? ['<', '/', 't', 'i', 't', 'l', 'e', '>'] r := rfl

/-- The title is all that stands between the tags of a title. -/
theorem standsBetween_page_iff {title body : List Char} (ht : '<' ∉ title) (hb : '<' ∉ body)
    {inner : List Char} :
    StandsBetween "<title>".toList "</title>".toList (page title body) inner ↔ inner = title := by
  have hfront : afterFirst? ['<', 't', 'i', 't', 'l', 'e', '>'] front = none := rfl
  have hback : afterFirst? ['<', 't', 'i', 't', 'l', 'e', '>']
      (title ++ ("</title>".toList ++ (betweenTitleAndBody ++ (body ++ afterBody)))) = none := by
    rw [afterFirst?_append ht, afterFirst?_titleTag, afterFirst?_append hb]
    rfl
  have htitle : afterFirst? ['<', '/', 't', 'i', 't', 'l', 'e', '>'] title = none := by
    rw [← List.append_nil title, afterFirst?_append ht]
    rfl
  have hrest : afterFirst? ['<', '/', 't', 'i', 't', 'l', 'e', '>']
      (betweenTitleAndBody ++ (body ++ afterBody)) = none := by
    rw [afterFirst?_endOfTitle, afterFirst?_append hb]
    rfl
  rw [afterFirst?_eq_none_iff] at hfront hback htitle hrest
  rw [page_eq_title]
  exact standsBetween_iff (by decide) (by decide) rfl rfl hfront hback htitle hrest

/-! ## The two pages -/

/-- Whatever username, make and model are, both pages have the tags of the template and no others, the title
of a vehicle's page reads as the username behind `Vehicle for `, and each page shows what was put into its
body, all of it. -/
theorem pages_keep_their_markup (username : String) (d : Details) :
    (tags (vehiclePage username d).toList = pageTags ∧
      (∃ title, decodeReferences title = "Vehicle for ".toList ++ username.toList ∧
        ∀ inner, StandsBetween "<title>".toList "</title>".toList (vehiclePage username d).toList inner ↔
          inner = title) ∧
      bodyText (vehiclePage username d) = d.make ++ " " ++ d.model) ∧
    (tags (notFoundPage username).toList = pageTags ∧
      bodyText (notFoundPage username) = "No vehicle registered for " ++ username) := by
  have htitle : '<' ∉ "Vehicle for ".toList ++ escape username.toList :=
    lt_not_mem_words_append (by decide) _
  have hbody : '<' ∉ "No vehicle registered for ".toList ++ escape username.toList :=
    lt_not_mem_words_append (by decide) _
  have hdecode := decodeReferences_words_append (rfl : escape "Vehicle for ".toList = _) username.toList
  have hvehicle : (vehiclePage username d).toList = page ("Vehicle for ".toList ++ escape username.toList)
      (escape d.make.toList ++ ' ' :: escape d.model.toList) := String.toList_ofList
  have hnotFound : (notFoundPage username).toList = page "No vehicle found".toList
      ("No vehicle registered for ".toList ++ escape username.toList) := String.toList_ofList
  rw [hvehicle, hnotFound]
  refine ⟨⟨tags_page htitle (lt_not_mem_vehicleBody d), ⟨_, hdecode, fun inner => ?_⟩,
    bodyText_vehiclePage username d⟩, tags_page (by decide) hbody,
    bodyText_notFoundPage username⟩
  exact standsBetween_page_iff htitle (lt_not_mem_vehicleBody d)

end Garage.Html

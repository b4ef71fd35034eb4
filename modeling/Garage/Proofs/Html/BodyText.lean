import Garage.Html.Pages
import Garage.Proofs.Html.Tags
import Garage.Proofs.Html.Words

/-!
# What a reader gets out of a page

The text of a page is read in three passes: the inside of the body is cut out, tags are removed, and
references are decoded. Text that was escaped passes the second untouched, having no `<`, and the
third undoes the escaping. So each page shows exactly what was put into its body, whatever that is.
-/

namespace Garage.Html

/-! ## Decoding undoes escaping -/

/-- A known reference is replaced, and decoding goes on behind it. -/
theorem decodeReferences_reference (name t : List Char) {d : Char}
    (hn : ∀ c ∈ name, (c != ';' && c != '&') = true) (hd : reference? name = some d) :
    decodeReferences ('&' :: (name ++ ';' :: t)) = d :: decodeReferences t := by
  have hdrop : (name ++ ';' :: t).dropWhile (fun c => c != ';' && c != '&') = ';' :: t := by
    rw [List.dropWhile_append_of_pos hn]
    rfl
  have htake : (name ++ ';' :: t).takeWhile (fun c => c != ';' && c != '&') = name := by
    rw [List.takeWhile_append_of_pos hn]
    exact List.append_nil name
  rw [decodeReferences, if_pos rfl]
  split
  · next u hu =>
    rw [hdrop] at hu
    cases hu
    rw [htake, hd]
  · next hu => exact absurd hdrop (hu t)

/-- One escaped character is read back, and decoding goes on behind it. -/
theorem decodeReferences_escapeChar (c : Char) (r : List Char) :
    decodeReferences (escapeChar c ++ r) = c :: decodeReferences r := by
  by_cases h1 : c = '&'
  · subst h1
    exact decodeReferences_reference ['#', '3', '8'] r (List.all_eq_true.mp rfl) (by decide)
  by_cases h2 : c = '<'
  · subst h2
    exact decodeReferences_reference ['#', '6', '0'] r (List.all_eq_true.mp rfl) (by decide)
  by_cases h3 : c = '>'
  · subst h3
    exact decodeReferences_reference ['#', '6', '2'] r (List.all_eq_true.mp rfl) (by decide)
  by_cases h4 : c = '"'
  · subst h4
    exact decodeReferences_reference ['#', '3', '4'] r (List.all_eq_true.mp rfl) (by decide)
  by_cases h5 : c = '\''
  · subst h5
    exact decodeReferences_reference ['#', '3', '9'] r (List.all_eq_true.mp rfl) (by decide)
  · have he : escapeChar c = [c] := by
      rw [escapeChar, if_neg h1, if_neg h2, if_neg h3, if_neg h4, if_neg h5]
    rw [he, List.singleton_append, decodeReferences_cons_of_ne h1]

theorem decodeReferences_escape_append (cs r : List Char) :
    decodeReferences (escape cs ++ r) = cs ++ decodeReferences r := by
  induction cs with
  | nil => rfl
  | cons c cs ih =>
    rw [escape_cons, List.append_assoc, decodeReferences_escapeChar, ih, List.cons_append]

@[simp] theorem decodeReferences_escape (cs : List Char) : decodeReferences (escape cs) = cs := by
  have h := decodeReferences_escape_append cs []
  rwa [List.append_nil, decodeReferences_nil, List.append_nil] at h

theorem lt_not_mem_escape (cs : List Char) : '<' ∉ escape cs :=
  fun h => (ne_of_mem_escape h).1 rfl

/-! ## The inside of the body -/

/-- The markup of a page before its title. -/
def beforeTitle : List Char :=
  "<!DOCTYPE html>\n<html lang=\"en\">\n<head>\n<meta charset=\"utf-8\">\n<title>".toList

/-- The markup of a page between its title and its body. -/
def afterTitle : List Char := "</title>\n</head>\n<body>".toList

/-- The markup of a page behind its body. -/
def afterBody : List Char := "</body>\n</html>".toList

theorem page_eq (title body : List Char) :
    page title body = beforeTitle ++ (title ++ (afterTitle ++ (body ++ afterBody))) := by
  show beforeTitle ++ title ++ afterTitle ++ body ++ afterBody = _
  rw [List.append_assoc, List.append_assoc, List.append_assoc]

/-- Before its title a page opens no body, whatever comes behind. -/
theorem afterFirst?_beforeTitle (r : List Char) :
    afterFirst? ['<', 'b', 'o', 'd', 'y'] (beforeTitle ++ r) =
      afterFirst? ['<', 'b', 'o', 'd', 'y'] r := rfl

theorem afterFirst?_afterTitle (r : List Char) :
    afterFirst? ['<', 'b', 'o', 'd', 'y'] (afterTitle ++ r) = some ('>' :: r) := rfl

/-- The body is what its first opening and its last closing tag leave, whatever the first one holds. -/
theorem bodyInside?_of_tags {cs attributes rest inside : List Char} (ha : '>' ∉ attributes)
    (hopen : afterFirst? ['<', 'b', 'o', 'd', 'y'] cs = some (attributes ++ '>' :: rest))
    (hclose : beforeLast? ['<', '/', 'b', 'o', 'd', 'y', '>'] rest = some inside) :
    bodyInside? cs = some inside := by
  rw [bodyInside?, hopen, Option.bind_eq_bind, Option.bind_some, afterTag?_append ha, Option.bind_some,
    hclose]

/-- A title that opens no tag leaves the body where it is. -/
theorem bodyInside?_page {title : List Char} (h : '<' ∉ title) (body : List Char) :
    bodyInside? (page title body) = some body := by
  have hopen : afterFirst? ['<', 'b', 'o', 'd', 'y'] (page title body) =
      some ('>' :: (body ++ afterBody)) := by
    rw [page_eq, afterFirst?_beforeTitle, afterFirst?_append h, afterFirst?_afterTitle]
  have hclose : beforeLast? ['<', '/', 'b', 'o', 'd', 'y', '>'] (body ++ afterBody) = some body := by
    rw [beforeLast?_append (b := []) (by decide), List.append_nil]
  exact bodyInside?_of_tags List.not_mem_nil hopen hclose

/-- A page whose body is text shows that text. -/
theorem bodyText_page {title body text : List Char} (ht : '<' ∉ title) (hb : '<' ∉ body)
    (hd : decodeReferences body = text) :
    bodyText (String.ofList (page title body)) = String.ofList text := by
  rw [bodyText, String.toList_ofList, bodyInside?_page ht, Option.getD_some, stripTags_eq_self hb, hd]

/-! ## The two pages -/

theorem lt_not_mem_words_append {words : List Char} (h : '<' ∉ words) (text : List Char) :
    '<' ∉ words ++ escape text := by
  rw [List.mem_append, not_or]
  exact ⟨h, lt_not_mem_escape text⟩

theorem lt_not_mem_vehicleBody (d : Details) :
    '<' ∉ escape d.make.toList ++ ' ' :: escape d.model.toList := by
  rw [List.mem_append, List.mem_cons, not_or, not_or]
  exact ⟨lt_not_mem_escape _, by decide, lt_not_mem_escape _⟩

/-- Words that need no escaping are read as they are, and what was escaped behind them is read back. -/
theorem decodeReferences_words_append {words : List Char} (h : escape words = words) (text : List Char) :
    decodeReferences (words ++ escape text) = words ++ text :=
  calc decodeReferences (words ++ escape text)
      = decodeReferences (escape (words ++ text)) := by rw [escape_append, h]
    _ = words ++ text := decodeReferences_escape _

/-- The page of a vehicle shows make and model, whatever characters they have. -/
theorem bodyText_vehiclePage (username : String) (d : Details) :
    bodyText (vehiclePage username d) = d.display := by
  have hdecode : decodeReferences (escape d.make.toList ++ ' ' :: escape d.model.toList) =
      d.make.toList ++ ' ' :: d.model.toList := by
    rw [decodeReferences_escape_append, decodeReferences_cons_of_ne (by decide),
      decodeReferences_escape]
  have htitle : '<' ∉ "Vehicle for ".toList ++ escape username.toList :=
    lt_not_mem_words_append (by decide) _
  rw [vehiclePage, bodyText_page htitle (lt_not_mem_vehicleBody d) hdecode, ← String.toList_inj]
  simp [Details.display]

/-- The page for a missing vehicle ends in the username, whatever characters it has. -/
theorem bodyText_notFoundPage (username : String) :
    bodyText (notFoundPage username) = "No vehicle registered for " ++ username := by
  have hdecode := decodeReferences_words_append
    (rfl : escape "No vehicle registered for ".toList = _) username.toList
  have hbody : '<' ∉ "No vehicle registered for ".toList ++ escape username.toList :=
    lt_not_mem_words_append (by decide) _
  rw [notFoundPage, bodyText_page (by decide) hbody hdecode, ← String.toList_inj]
  simp

end Garage.Html

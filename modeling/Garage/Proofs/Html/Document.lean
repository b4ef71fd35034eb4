import Garage.Proofs.Html.BodyText

/-!
# The text of a document

A document is a tree of texts and elements in a body, with markup of any kind around it. Its text is that of
the tree, in order: each element gives way with its two tags, each text is read back, and nothing is read
across the border of two nodes, since an escaped text ends outside of a tag and of a reference.
-/

namespace Garage.Html

/-! ## Trees -/

/-- What the tags of an element hold. -/
structure Tag where
  name : List Char
  attributes : List Char
  name_plain : ∀ c ∈ name, c ≠ '<' ∧ c ≠ '>' ∧ c ≠ '/'
  attributes_plain : ∀ c ∈ attributes, c ≠ '<' ∧ c ≠ '>'

def Tag.opening (tag : Tag) : List Char :=
  '<' :: (tag.name ++ tag.attributes ++ ['>'])

def Tag.closing (tag : Tag) : List Char :=
  '<' :: '/' :: (tag.name ++ ['>'])

inductive Node where
  | text (content : List Char)
  | element (tag : Tag) (children : List Node)

mutual

/-- A node as it is written: its texts are escaped, its elements stand between their tags. -/
def Node.markup : Node → List Char
  | .text content => escape content
  | .element tag children => tag.opening ++ (markups children ++ tag.closing)

def markups : List Node → List Char
  | [] => []
  | node :: nodes => node.markup ++ markups nodes

end

mutual

/-- The texts of a node, in order. -/
def Node.content : Node → List Char
  | .text content => content
  | .element _ children => contents children

def contents : List Node → List Char
  | [] => []
  | node :: nodes => node.content ++ contents nodes

end

theorem stripTags_opening_append (tag : Tag) (r : List Char) :
    stripTags (tag.opening ++ r) = stripTags r := by
  have hinside : '>' ∉ tag.name ++ tag.attributes := by
    rw [List.mem_append, not_or]
    exact ⟨fun h => (tag.name_plain _ h).2.1 rfl, fun h => (tag.attributes_plain _ h).2 rfl⟩
  rw [Tag.opening, List.cons_append, List.append_assoc]
  exact stripTags_tag_append hinside r

theorem stripTags_closing_append (tag : Tag) (r : List Char) :
    stripTags (tag.closing ++ r) = stripTags r := by
  have hinside : '>' ∉ '/' :: tag.name := by
    rw [List.mem_cons, not_or]
    exact ⟨by decide, fun h => (tag.name_plain _ h).2.1 rfl⟩
  rw [Tag.closing, List.cons_append, List.cons_append, List.append_assoc]
  exact stripTags_tag_append hinside r

mutual

/-- Without its tags a node is its texts, still escaped, and what follows is read as if nothing stood
before it. -/
theorem Node.stripTags_markup_append (r : List Char) :
    ∀ node : Node, stripTags (node.markup ++ r) = escape node.content ++ stripTags r
  | .text content => stripTags_text_append (lt_not_mem_escape content) r
  | .element tag children => by
    rw [Node.markup, Node.content, List.append_assoc, List.append_assoc, stripTags_opening_append,
      stripTags_markups_append (tag.closing ++ r) children, stripTags_closing_append]

theorem stripTags_markups_append (r : List Char) :
    ∀ nodes : List Node, stripTags (markups nodes ++ r) = escape (contents nodes) ++ stripTags r
  | [] => rfl
  | node :: nodes => by
    rw [markups, contents, List.append_assoc, Node.stripTags_markup_append (markups nodes ++ r) node,
      stripTags_markups_append r nodes, escape_append, List.append_assoc]

end

theorem stripTags_markups (nodes : List Node) : stripTags (markups nodes) = escape (contents nodes) := by
  have h := stripTags_markups_append [] nodes
  rwa [List.append_nil, stripTags_nil, List.append_nil] at h

/-! ## Documents -/

/-- A body with markup before and behind it. The words of its tags are in either case; before the body none
is opened, and behind it none is closed. -/
structure Document where
  before : List Char
  opening : List Char
  attributes : List Char
  nodes : List Node
  closing : List Char
  after : List Char
  not_opened : ¬ Mentions ['<', 'b', 'o', 'd', 'y'] before
  opens : opening.map Char.toLower = ['<', 'b', 'o', 'd', 'y']
  attributes_plain : '>' ∉ attributes
  closes : closing.map Char.toLower = ['<', '/', 'b', 'o', 'd', 'y', '>']
  not_closed : ¬ Mentions ['<', '/', 'b', 'o', 'd', 'y', '>'] after

def Document.markup (doc : Document) : String :=
  String.ofList (doc.before ++ (doc.opening ++ (doc.attributes ++
    '>' :: (markups doc.nodes ++ (doc.closing ++ doc.after)))))

/-- The tree may have bodies of its own: the body is the one whose tags are the first and the last. -/
theorem bodyInside?_markup (doc : Document) :
    bodyInside? doc.markup.toList = some (markups doc.nodes) := by
  have hopen := afterFirst?_append_word (by decide) doc.opens doc.not_opened
    (doc.attributes ++ '>' :: (markups doc.nodes ++ (doc.closing ++ doc.after)))
  have hclose := beforeLast?_append_word (by decide) doc.closes doc.not_closed (markups doc.nodes)
  rw [Document.markup, String.toList_ofList]
  exact bodyInside?_of_tags doc.attributes_plain hopen hclose

/-! ## Markup without a body -/

/-- The tag of a body is opened, and behind it the tag of a body is closed. -/
def HasBody (cs : List Char) : Prop :=
  ∃ before opening attributes inside closing after,
    cs = before ++ (opening ++ (attributes ++ '>' :: (inside ++ (closing ++ after)))) ∧
      opening.map Char.toLower = ['<', 'b', 'o', 'd', 'y'] ∧ '>' ∉ attributes ∧
      closing.map Char.toLower = ['<', '/', 'b', 'o', 'd', 'y', '>']

theorem hasBody_of_bodyInside? {cs inside : List Char} (h : bodyInside? cs = some inside) :
    HasBody cs := by
  obtain ⟨r, hr, hcut⟩ := Option.bind_eq_some_iff.mp h
  obtain ⟨t, ht, hclose⟩ := Option.bind_eq_some_iff.mp hcut
  obtain ⟨before, opening, rfl, hopening⟩ := exists_of_afterFirst? hr
  obtain ⟨attributes, rfl, hattributes⟩ := exists_of_afterTag? ht
  obtain ⟨closing, after, rfl, hclosing⟩ := exists_of_beforeLast? hclose
  exact ⟨before, opening, attributes, inside, closing, after, rfl, hopening, hattributes, hclosing⟩

theorem not_hasBody_of_not_mentions {cs : List Char} (h : ¬ Mentions ['<', 'b', 'o', 'd', 'y'] cs) :
    ¬ HasBody cs := by
  rintro ⟨before, opening, attributes, inside, closing, after, he, hopening, -⟩
  exact h ⟨before, opening, _, he, hopening⟩

/-- The text of a document is that of its tree, whatever stands around the tree and in the tags of its body.
Markup without a body has no text. -/
theorem bodyText_reads_the_tree :
    (∀ doc : Document, bodyText doc.markup = String.ofList (contents doc.nodes)) ∧
      ∀ markup : String, ¬ HasBody markup.toList → bodyText markup = "" := by
  constructor
  · intro doc
    rw [bodyText, bodyInside?_markup, Option.getD_some, stripTags_markups, decodeReferences_escape]
  · intro markup h
    have hnone : bodyInside? markup.toList = none := by
      cases hi : bodyInside? markup.toList with
      | none => rfl
      | some inside => exact absurd (hasBody_of_bodyInside? hi) h
    rw [bodyText, hnone, Option.getD_none, stripTags_nil, decodeReferences_nil, String.ofList_nil]

/-- A body in a body, the inner one with a text that looks like markup. -/
def bodyInBody : Document where
  before := "<p".toList
  opening := "<BODY".toList
  attributes := " title=\"<body\"".toList
  nodes := [.element ⟨['b', 'o', 'd', 'y'], [], by simp, by simp⟩ [.text "</body>".toList],
    .text " &lt;".toList]
  closing := "</Body>".toList
  after := "</body".toList
  not_opened := afterFirst?_eq_none_iff.mp rfl
  opens := rfl
  attributes_plain := by decide
  closes := rfl
  not_closed := afterFirst?_eq_none_iff.mp rfl

theorem bodyText_of_bodyInBody :
    bodyInBody.markup =
        "<p<BODY title=\"<body\"><body>&#60;/body&#62;</body> &#38;lt;</Body></body" ∧
      bodyText bodyInBody.markup = "</body> &lt;" ∧
      bodyText "<p>fragment</p>" = "" := by
  refine ⟨rfl, ?_, ?_⟩
  · rw [bodyText_reads_the_tree.1]
    rfl
  · exact bodyText_reads_the_tree.2 _ (not_hasBody_of_not_mentions (afterFirst?_eq_none_iff.mp rfl))

end Garage.Html

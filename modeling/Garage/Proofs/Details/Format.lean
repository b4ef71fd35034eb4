import Garage.Proofs.Json.Skip

/-!
# The format of details

Which texts are details, said without a reader. The items of a container are told apart, but a value is
kept as it is written: of an unknown member nothing is asked but that it be JSON. Keys are compared by
what they stand for, so an object is known by its members, each with its decoded key.
-/

namespace Garage.Details

open Garage.Json (Blank Denotes Formed)

/-! ## Containers by their items -/

section Items

variable {α : Type} (Item : α → List Char → Prop) (close : Char)

/-- What follows an item: more of them, a comma before each, and the closing bracket. -/
inductive Further : List α → List Char → Prop
  | last {w : List Char} (hw : Blank w) : Further [] (w ++ [close])
  | more {a : α} {as : List α} {w i x : List Char} (hw : Blank w) (hi : Item a i)
    (hx : Further as x) : Further (a :: as) (w ++ ',' :: (i ++ x))

/-- What follows the opening bracket of a container. -/
inductive Items : List α → List Char → Prop
  | empty {w : List Char} (hw : Blank w) : Items [] (w ++ [close])
  | items {a : α} {as : List α} {i x : List Char} (hi : Item a i) (hx : Further Item close as x) :
    Items (a :: as) (i ++ x)

end Items

/-- An element of an array, with the white space before it. -/
inductive Element : List Char → List Char → Prop
  | written {w v : List Char} (hw : Blank w) (hv : Formed .value v) : Element v (w ++ v)

/-- A member of an object: what its key stands for, and its value as it is written. -/
structure Member where
  key : String
  value : List Char

/-- How a member is written, with the white space before it. -/
inductive Member.Written : Member → List Char → Prop
  | written {key : String} {w body w' w'' v : List Char} (hw : Blank w)
    (hk : Denotes body key.toList) (hw' : Blank w') (hw'' : Blank w'') (hv : Formed .value v) :
    Written ⟨key, v⟩ (w ++ '"' :: (body ++ '"' :: (w' ++ ':' :: (w'' ++ v))))

/-- An array of these values. -/
inductive Listing (vs : List (List Char)) : List Char → Prop
  | brackets {b : List Char} (h : Items Element ']' vs b) : Listing vs ('[' :: b)

/-- An object of these members. -/
inductive Object (ms : List Member) : List Char → Prop
  | brackets {b : List Char} (h : Items Member.Written '\x7d' ms b) : Object ms ('\x7b' :: b)

/-! ## Details -/

/-- A value that is a text, and the string that it stands for. -/
inductive Reads : List Char → String → Prop
  | text {body : List Char} {s : String} (h : Denotes body s.toList) : Reads ('"' :: (body ++ ['"'])) s

/-- The values that an object has under the key of a field, in their order. -/
def valuesOf (field : Field) (ms : List Member) : List (List Char) :=
  (ms.filter (·.key = field.key)).map Member.value

/-- The field is there exactly once, with a text that stands for this string. -/
def Once (field : Field) (s : String) (ms : List Member) : Prop :=
  ∃ v, valuesOf field ms = [v] ∧ Reads v s

/-- The values that show these details. -/
inductive Describes (d : Details) : List Char → Prop
  | listing {x y t : List Char} (ht : Listing [x, y] t) (hx : Reads x d.make)
    (hy : Reads y d.model) : Describes d t
  | object {ms : List Member} {t : List Char} (ht : Object ms t) (hmake : Once .make d.make ms)
    (hmodel : Once .model d.model ms) : Describes d t

/-- A text that is such a value, up to white space around it. -/
def Padded (P : List Char → Prop) (t : String) : Prop :=
  ∃ w v w', t.toList = w ++ (v ++ w') ∧ Blank w ∧ Blank w' ∧ P v

/-! ## They are JSON -/

theorem Element.formed {v i : List Char} (h : Element v i) : Formed (.item .array) i := by
  cases h with
  | written hw hv => exact .element hw hv

theorem Member.Written.formed {m : Member} {i : List Char} (h : m.Written i) :
    Formed (.item .object) i := by
  cases h with
  | written hw hk hw' hw'' hv => exact .member hw hk.spelled hw' hw'' hv

section Formed

variable {α : Type} {Item : α → List Char → Prop} {f : Json.Frame} {as : List α}

theorem Further.formed (hItem : ∀ {a i}, Item a i → Formed (.item f) i) {x : List Char}
    (h : Further Item f.close as x) : Formed (.rest f) x := by
  induction h with
  | last hw => exact .last hw
  | more hw hi _ ih => exact .more hw (hItem hi) ih

theorem Items.formed (hItem : ∀ {a i}, Item a i → Formed (.item f) i) {b : List Char}
    (h : Items Item f.close as b) : Formed (.body f) b := by
  cases h with
  | empty hw => exact .empty hw
  | items hi hx => exact .items (hItem hi) (hx.formed hItem)

end Formed

theorem Listing.formed {vs : List (List Char)} {v : List Char} (h : Listing vs v) :
    ∃ b, v = Json.Frame.array.opens :: b ∧ Formed (.body .array) b := by
  cases h with
  | brackets h => exact ⟨_, rfl, Items.formed (f := .array) Element.formed h⟩

theorem Object.formed {ms : List Member} {v : List Char} (h : Object ms v) :
    ∃ b, v = Json.Frame.object.opens :: b ∧ Formed (.body .object) b := by
  cases h with
  | brackets h => exact ⟨_, rfl, Items.formed (f := .object) Member.Written.formed h⟩

theorem Describes.formed {d : Details} {v : List Char} (h : Describes d v) :
    ∃ (f : Json.Frame) (b : List Char), v = f.opens :: b ∧ Formed (.body f) b := by
  cases h with
  | listing ht => exact ⟨_, ht.formed⟩
  | object ht => exact ⟨_, ht.formed⟩

theorem Reads.formed {v : List Char} {s : String} (h : Reads v s) : Formed .value v := by
  cases h with
  | text h => exact .scalar (.text h.spelled)

/-! ## Noting the members one by one -/

/-- What a member adds to the members seen before it. Of the two fields, none is taken a second time. -/
inductive Noted (seen : Seen) : Member → Seen → Prop
  | known {field : Field} {v : List Char} {s : String} (hn : seen.get? field = none)
    (hv : Reads v s) : Noted seen ⟨field.key, v⟩ (seen.set s field)
  | unknown {m : Member} (hm : ∀ field : Field, m.key ≠ field.key) : Noted seen m seen

inductive NotedAll : Seen → List Member → Seen → Prop
  | nil {seen : Seen} : NotedAll seen [] seen
  | cons {seen seen' seen'' : Seen} {m : Member} {ms : List Member} (hm : Noted seen m seen')
    (hms : NotedAll seen' ms seen'') : NotedAll seen (m :: ms) seen''

/-- What the values under one key make of what is known of its field. -/
inductive Tally : Option String → List (List Char) → Option String → Prop
  | kept {o : Option String} : Tally o [] o
  | read {v : List Char} {s : String} (h : Reads v s) : Tally none [v] (some s)

theorem tally_nil {o o' : Option String} : Tally o [] o' ↔ o = o' := by
  constructor
  · rintro ⟨⟩
    rfl
  · rintro rfl
    exact .kept

theorem tally_cons {o o' : Option String} {v : List Char} {vs : List (List Char)} :
    Tally o (v :: vs) o' ↔ o = none ∧ vs = [] ∧ ∃ s, Reads v s ∧ o' = some s := by
  constructor
  · rintro (_ | hr)
    exact ⟨rfl, rfl, _, hr, rfl⟩
  · rintro ⟨rfl, rfl, s, hr, rfl⟩
    exact .read hr

theorem tally_some {o : Option String} {s : String} {vs : List (List Char)} :
    Tally (some s) vs o ↔ vs = [] ∧ o = some s := by
  cases vs with
  | nil => rw [tally_nil, eq_comm, and_iff_right rfl]
  | cons v vs =>
    rw [tally_cons]
    exact iff_of_false nofun nofun

theorem key_injective {field field' : Field} (h : field.key = field'.key) : field = field' := by
  cases field <;> cases field' <;> first | rfl | exact absurd h (by decide)

theorem valuesOf_cons_key (field : Field) (v : List Char) (ms : List Member) :
    valuesOf field (⟨field.key, v⟩ :: ms) = v :: valuesOf field ms := by
  rw [valuesOf, List.filter_cons_of_pos (by simp), List.map_cons]
  rfl

theorem valuesOf_cons_ne {field : Field} {m : Member} (h : m.key ≠ field.key) (ms : List Member) :
    valuesOf field (m :: ms) = valuesOf field ms := by
  rw [valuesOf, List.filter_cons_of_neg (by simpa using h)]
  rfl

theorem get?_set (seen : Seen) (s : String) (field : Field) :
    (seen.set s field).get? field = some s := by
  cases field <;> rfl

theorem get?_set_ne (seen : Seen) (s : String) {field field' : Field} (h : field' ≠ field) :
    (seen.set s field).get? field' = seen.get? field' := by
  cases field <;> cases field' <;> first | rfl | exact absurd rfl h

theorem seen_ext {seen seen' : Seen} (h : ∀ field, seen.get? field = seen'.get? field) :
    seen = seen' := by
  cases seen
  cases seen'
  exact (Seen.mk.injEq ..).mpr ⟨h .make, h .model⟩

/-- A member of a field is noted by the tally of that field, and by no other. -/
theorem notedAll_field_iff {field : Field} {v : List Char} {seen seen' : Seen} {ms : List Member}
    (ih : ∀ {seen}, NotedAll seen ms seen' ↔
      ∀ field, Tally (seen.get? field) (valuesOf field ms) (seen'.get? field)) :
    NotedAll seen (⟨field.key, v⟩ :: ms) seen' ↔
      ∀ field', Tally (seen.get? field') (valuesOf field' (⟨field.key, v⟩ :: ms))
        (seen'.get? field') := by
  have hne {field' : Field} (h : field' ≠ field) :
      valuesOf field' (⟨field.key, v⟩ :: ms) = valuesOf field' ms :=
    valuesOf_cons_ne (m := ⟨field.key, v⟩) (fun he => h (key_injective he).symm) ms
  constructor
  · rintro (_ | ⟨hm, hms⟩) field'
    generalize hk : field.key = key at hm
    cases hm with
    | unknown hm => exact absurd hk.symm (hm field)
    | @known field₂ _ s hn hv =>
      obtain rfl := key_injective hk
      have h := ih.mp hms field'
      by_cases hf : field' = field
      · subst hf
        rw [get?_set, tally_some] at h
        rw [valuesOf_cons_key, tally_cons]
        exact ⟨hn, h.1, s, hv, h.2⟩
      · rw [hne hf]
        rwa [get?_set_ne _ _ hf] at h
  · intro h
    have hf := h field
    rw [valuesOf_cons_key, tally_cons] at hf
    obtain ⟨hn, hvs, s, hr, hs⟩ := hf
    refine .cons (.known hn hr) (ih.mpr fun field' => ?_)
    by_cases hf : field' = field
    · subst hf
      rw [get?_set, tally_some]
      exact ⟨hvs, hs⟩
    · rw [get?_set_ne _ _ hf, ← hne hf]
      exact h field'

/-- Fields are noted independently of each other and of unknown members. -/
theorem notedAll_iff {seen seen' : Seen} {ms : List Member} :
    NotedAll seen ms seen' ↔
      ∀ field, Tally (seen.get? field) (valuesOf field ms) (seen'.get? field) := by
  induction ms generalizing seen with
  | nil =>
    constructor
    · rintro ⟨⟩ field
      exact .kept
    · intro h
      obtain rfl : seen = seen' := seen_ext fun field => tally_nil.mp (h field)
      exact .nil
  | cons m ms ih =>
    by_cases hm : ∃ field : Field, m.key = field.key
    · obtain ⟨key, v⟩ := m
      obtain ⟨field, rfl⟩ := hm
      exact notedAll_field_iff ih
    · have hne := not_exists.mp hm
      have hv (field : Field) : valuesOf field (m :: ms) = valuesOf field ms :=
        valuesOf_cons_ne (hne field) ms
      simp only [hv, ← ih]
      constructor
      · rintro (_ | ⟨h, hms⟩)
        cases h with
        | known => exact absurd rfl (hne _)
        | unknown => exact hms
      · exact fun h => .cons (.unknown hne) h

theorem details_eq_ok_iff {seen : Seen} {d : Details} :
    seen.details = .ok d ↔ seen.make = some d.make ∧ seen.model = some d.model := by
  obtain ⟨_ | make, _ | model⟩ := seen
  · exact iff_of_false nofun nofun
  · exact iff_of_false nofun nofun
  · exact iff_of_false nofun nofun
  · rw [Option.some_inj, Option.some_inj]
    constructor
    · rintro ⟨⟩
      exact ⟨rfl, rfl⟩
    · rintro ⟨rfl, rfl⟩
      rfl

theorem once_iff_tally {field : Field} {s : String} {ms : List Member} :
    Once field s ms ↔ Tally none (valuesOf field ms) (some s) := by
  constructor
  · rintro ⟨v, hv, hr⟩
    rw [hv]
    exact .read hr
  · intro h
    generalize hv : valuesOf field ms = vs at h
    cases h with
    | read hr => exact ⟨_, hv, hr⟩

/-- The members give details if each field is there once, wherever it stands. -/
theorem noted_details_iff {ms : List Member} {d : Details} :
    (∃ seen, NotedAll .none ms seen ∧ seen.details = .ok d) ↔
      Once .make d.make ms ∧ Once .model d.model ms := by
  simp only [notedAll_iff, details_eq_ok_iff, once_iff_tally]
  constructor
  · rintro ⟨⟨make, model⟩, h, rfl, rfl⟩
    exact ⟨h .make, h .model⟩
  · rintro ⟨hmake, hmodel⟩
    exact ⟨⟨some d.make, some d.model⟩, fun field => by cases field <;> assumption, rfl, rfl⟩

end Garage.Details

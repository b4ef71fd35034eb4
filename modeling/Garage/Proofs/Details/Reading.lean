import Garage.Proofs.Details.Format

/-!
# Details are read as their format says

Given the items of a container, the reader accepts it exactly if they are details, and given what the
reader accepts, there are such items. Neither needs to know that the items of a text are unique.
-/

namespace Garage.Details

open Garage.Text (Piece)
open Garage.Json (Blank Denotes Formed Spelled Stops skipSpace expect readText bind_eq_ok)

variable {s r : List Char} {q : List Piece}

/-! ## Texts -/

/-- A value that begins with a quote is a text. -/
theorem spelled_of_quote {t : List Char} (h : Formed .value ('"' :: t)) :
    ∃ body, t = body ++ ['"'] ∧ Spelled body := by
  generalize hv : '"' :: t = v at h
  cases h with
  | scalar h =>
    cases h with
    | literal h =>
      simp only [List.mem_cons, List.not_mem_nil, or_false] at h
      rcases h with rfl | rfl | rfl <;> cases hv
    | unsigned h =>
      obtain ⟨d, t, rfl, hd⟩ := Json.exists_digit_of_unsigned h
      cases hv
      exact absurd hd (by decide)
    | negative => cases hv
    | text h =>
      cases hv
      exact ⟨_, rfl, h⟩
  | @container f =>
    have := (List.cons.inj hv).1
    cases f <;> exact absurd this (by decide)

theorem readValue_skipSpace (q : List Piece) : readValue (skipSpace q) = readValue q := by
  rw [readValue, readValue, Json.skipSpace_skipSpace]

theorem readValue_quote_iff {w : List Char} (hw : Blank w) {a : String} :
    readValue ((w ++ '"' :: s).map .char) = .ok (a, q) ↔
      readText (s.map .char) = .ok (a.toList, q) := by
  have h : readValue ((w ++ '"' :: s).map .char) =
      ofJsonFault ((readText (s.map .char)).map fun p => (String.ofList p.1, p.2)) := by
    rw [readValue, Json.skipSpace_blank_cons hw rfl]
    rfl
  rw [h, ofJsonFault_eq_ok]
  cases readText (s.map .char) with
  | error e => constructor <;> intro h <;> cases h
  | ok p =>
    obtain ⟨cs, r⟩ := p
    simp only [Except.map, Except.ok.injEq, Prod.mk.injEq, String.ext_iff, String.toList_ofList]

theorem readValue_ne_ok {w : List Char} (hw : Blank w) {c : Char}
    (hs : Json.isSpace (.char c) = false) (hc : c ≠ '"') (s : List Char) (p : String × List Piece) :
    readValue ((w ++ c :: s).map .char) ≠ .ok p := by
  rw [readValue, Json.skipSpace_blank_cons hw hs]
  split
  · next he =>
    cases he
    exact absurd rfl hc
  · exact refuse_ne_ok

/-- A value is read if it is a text that stands for something. -/
theorem readValue_iff {w v : List Char} {a : String} (hw : Blank w) (hv : Formed .value v)
    (r : List Char) :
    readValue ((w ++ (v ++ r)).map .char) = .ok (a, q) ↔ Reads v a ∧ q = r.map .char := by
  obtain ⟨c, t, rfl, hs, -⟩ := hv.head
  constructor
  · intro h
    by_cases hc : c = '"'
    · subst hc
      obtain ⟨body, rfl, hb⟩ := spelled_of_quote hv
      rw [List.cons_append, readValue_quote_iff hw, List.append_assoc] at h
      obtain ⟨body', r', he, hd, rfl⟩ := Json.exists_denotes_of_readText h
      obtain ⟨rfl, rfl⟩ := hb.unique hd.spelled he
      exact ⟨.text hd, rfl⟩
    · exact absurd h (readValue_ne_ok hw hs hc _ _)
  · rintro ⟨hr, rfl⟩
    cases hr with
    | text hd =>
      rw [List.cons_append, readValue_quote_iff hw, List.append_assoc]
      exact Json.readText_of_denotes hd r

theorem exists_reads {a : String} (h : readValue (s.map .char) = .ok (a, q)) :
    ∃ w v r, s = w ++ (v ++ r) ∧ Blank w ∧ Reads v a ∧ q = r.map .char := by
  obtain ⟨w, t, rfl, hw, hs, hh⟩ := Json.exists_blank s
  cases t with
  | nil =>
    rw [← readValue_skipSpace, hs] at h
    exact absurd h refuse_ne_ok
  | cons c t =>
    by_cases hc : c = '"'
    · subst hc
      rw [readValue_quote_iff hw] at h
      obtain ⟨body, r, rfl, hd, rfl⟩ := Json.exists_denotes_of_readText h
      refine ⟨w, '"' :: (body ++ ['"']), r, ?_, hw, .text hd, rfl⟩
      rw [List.cons_append, List.append_assoc]
      rfl
    · exact absurd h (readValue_ne_ok hw (hh c rfl) hc _ _)

/-! ## Arrays -/

theorem element_close {n : Nat} {t : List Piece} (h : skipSpace q = .char ']' :: t) :
    element n q = .error (.wrongLength n) := by
  rw [element, h]
  exact if_pos rfl

theorem element_zero {p : Piece} {t : List Piece} (h : skipSpace q = p :: t) (hp : p ≠ .char ']') :
    element 0 q = readValue q := by
  rw [element, h]
  dsimp only
  rw [if_neg hp, if_pos rfl, ← h, readValue_skipSpace]

theorem element_one {p : Piece} {t u : List Piece} (h : skipSpace q = .char ',' :: t)
    (ht : skipSpace t = p :: u) (hp : p ≠ .char ']') : element 1 q = readValue t := by
  rw [element, h]
  dsimp only
  rw [if_neg (by decide), if_neg (by decide), if_pos rfl, ht]
  dsimp only
  rw [if_neg hp, ← ht, readValue_skipSpace]

theorem readArray_eq_ok_iff {d : Details} {p : List Piece} :
    readArray p = .ok (d, q) ↔ ∃ t u, element 0 p = .ok (d.make, t) ∧
      element 1 t = .ok (d.model, u) ∧ expect ']' (skipSpace u) = .ok q := by
  unfold readArray
  constructor
  · intro h
    obtain ⟨⟨make, t⟩, h0, h⟩ := bind_eq_ok.mp h
    obtain ⟨⟨model, u⟩, h1, h⟩ := bind_eq_ok.mp h
    obtain ⟨v, he, h⟩ := bind_eq_ok.mp h
    obtain ⟨rfl, rfl⟩ := Prod.mk.inj (Except.ok.inj h)
    exact ⟨t, u, h0, h1, ofJsonFault_eq_ok.mp he⟩
  · rintro ⟨t, u, h0, h1, he⟩
    rw [h0]
    simp only [bind, Except.bind, h1, he, ofJsonFault_ok]

/-- An element's first character, after white space, does not close the array. -/
theorem Element.skipSpace_eq {v i : List Char} (h : Element v i) (r : List Char) :
    ∃ p t, skipSpace ((i ++ r).map .char) = p :: t ∧ p ≠ .char ']' := by
  obtain ⟨w, c, t, rfl, hw, hs, hc⟩ := h.formed.item_head
  refine ⟨.char c, (t ++ r).map .char, ?_, fun he => hc (Piece.char.inj he)⟩
  rw [List.append_assoc]
  exact Json.skipSpace_blank_cons hw hs _

theorem readValue_element {v i : List Char} {a : String} (h : Element v i) (r : List Char) :
    readValue ((i ++ r).map .char) = .ok (a, q) ↔ Reads v a ∧ q = r.map .char := by
  cases h with
  | written hw hv =>
    rw [List.append_assoc]
    exact readValue_iff hw hv r

theorem skipSpace_further_nil {x : List Char} (h : Further Element ']' [] x) (r : List Char) :
    skipSpace ((x ++ r).map .char) = .char ']' :: r.map .char := by
  cases h with
  | last hw =>
    rw [List.append_assoc]
    exact Json.skipSpace_blank_cons hw (by decide) _

theorem skipSpace_further_cons {v : List Char} {vs : List (List Char)} {x : List Char}
    (h : Further Element ']' (v :: vs) x) (r : List Char) :
    ∃ i y, skipSpace ((x ++ r).map .char) = .char ',' :: (i ++ (y ++ r)).map .char ∧
      Element v i ∧ Further Element ']' vs y := by
  cases h with
  | @more _ _ w i y hw hi hy =>
    refine ⟨i, y, ?_, hi, hy⟩
    rw [List.append_assoc, List.cons_append, List.append_assoc]
    exact Json.skipSpace_blank_cons hw (by decide) _

/-- An array is read if it is one of two texts. -/
theorem readArray_iff {vs : List (List Char)} {b : List Char} {d : Details}
    (h : Items Element ']' vs b) (r : List Char) :
    readArray ((b ++ r).map .char) = .ok (d, q) ↔
      (∃ x y, vs = [x, y] ∧ Reads x d.make ∧ Reads y d.model) ∧ q = r.map .char := by
  rw [readArray_eq_ok_iff]
  cases h with
  | @empty w hw =>
    have hs : skipSpace ((w ++ [']'] ++ r).map .char) = .char ']' :: r.map .char := by
      rw [List.append_assoc]
      exact Json.skipSpace_blank_cons hw (by decide) _
    rw [element_close hs]
    exact iff_of_false nofun nofun
  | @items v vs i x hi hx =>
    obtain ⟨p, t, hp, hne⟩ := hi.skipSpace_eq (x ++ r)
    rw [List.append_assoc, element_zero hp hne]
    simp only [readValue_element hi]
    cases vs with
    | nil =>
      constructor
      · rintro ⟨t, u, ⟨-, rfl⟩, h1, -⟩
        rw [element_close (skipSpace_further_nil hx r)] at h1
        cases h1
      · rintro ⟨⟨x, y, ⟨⟩, -⟩, -⟩
    | cons v' vs =>
      obtain ⟨i', y, hs, hi', hy⟩ := skipSpace_further_cons hx r
      obtain ⟨p, t, hp, hne⟩ := hi'.skipSpace_eq (y ++ r)
      have h1 := element_one hs hp hne
      constructor
      · rintro ⟨t, u, ⟨hmake, rfl⟩, hmodel, he⟩
        rw [h1, readValue_element hi'] at hmodel
        obtain ⟨hmodel, rfl⟩ := hmodel
        cases vs with
        | nil =>
          rw [skipSpace_further_nil hy r, Json.expect_self] at he
          exact ⟨⟨v, v', rfl, hmake, hmodel⟩, (Except.ok.inj he).symm⟩
        | cons v'' vs =>
          obtain ⟨_, _, hs, -⟩ := skipSpace_further_cons hy r
          rw [hs, expect, if_neg (by decide)] at he
          cases he
      · rintro ⟨⟨x', y', ⟨⟩, hmake, hmodel⟩, rfl⟩
        refine ⟨_, _, ⟨hmake, rfl⟩, h1.trans ((readValue_element hi' _).mpr ⟨hmodel, rfl⟩), ?_⟩
        rw [skipSpace_further_nil hy r, Json.expect_self]

theorem exists_element_zero {a : String} (h : element 0 (s.map .char) = .ok (a, q)) :
    ∃ v i r, s = i ++ r ∧ Element v i ∧ q = r.map .char := by
  unfold element at h
  split at h
  · cases h
  · next hs =>
    split at h
    · cases h
    rw [if_pos rfl, ← hs, readValue_skipSpace] at h
    obtain ⟨w, v, r, rfl, hw, hv, rfl⟩ := exists_reads h
    exact ⟨v, w ++ v, r, by rw [List.append_assoc], .written hw hv.formed, rfl⟩

theorem exists_element_one {a : String} (h : element 1 (s.map .char) = .ok (a, q)) :
    ∃ w v i r, s = w ++ ',' :: (i ++ r) ∧ Blank w ∧ Element v i ∧ q = r.map .char := by
  unfold element at h
  split at h
  · cases h
  · next hs =>
    split at h
    · cases h
    rw [if_neg (by decide)] at h
    split at h
    · next hp =>
      obtain ⟨w, c, t, rfl, hw, rfl, rfl⟩ := Json.exists_skipSpace_cons hs
      cases hp
      split at h
      · cases h
      · next ht =>
        split at h
        · cases h
        rw [← ht, readValue_skipSpace] at h
        obtain ⟨w', v, r, rfl, hw', hv, rfl⟩ := exists_reads h
        exact ⟨w, v, w' ++ v, r, by rw [List.append_assoc], hw, .written hw' hv.formed, rfl⟩
    · cases h

theorem exists_listing {d : Details} (h : readArray (s.map .char) = .ok (d, q)) :
    ∃ vs b r, s = b ++ r ∧ Items Element ']' vs b ∧ q = r.map .char := by
  obtain ⟨t, u, h0, h1, he⟩ := readArray_eq_ok_iff.mp h
  obtain ⟨v, i, r, rfl, hi, rfl⟩ := exists_element_zero h0
  obtain ⟨w, v', i', r, rfl, hw, hi', rfl⟩ := exists_element_one h1
  obtain ⟨w', r, rfl, hw', hs, -⟩ := Json.exists_blank r
  rw [hs] at he
  obtain ⟨r, rfl, rfl⟩ := Json.expect_map he
  exact ⟨[v, v'], _, r, by simp, .items hi (.more hw hi' (.last hw')), rfl⟩

/-! ## Members -/

theorem ofKey?_eq_some_iff {key : String} {field : Field} :
    Field.ofKey? key.toList = some field ↔ key = field.key := by
  constructor
  · intro h
    unfold Field.ofKey? at h
    split at h
    · next hk =>
      cases h
      exact String.ext hk
    split at h
    · next hk =>
      cases h
      exact String.ext hk
    · cases h
  · rintro rfl
    exact ofKey?_key field

theorem readKey_skipSpace (q : List Piece) : readKey (skipSpace q) = readKey q := by
  rw [readKey, readKey, Json.skipSpace_skipSpace]

theorem readMember_skipSpace (seen : Seen) (q : List Piece) :
    readMember seen (skipSpace q) = readMember seen q := by
  rw [readMember, readMember, readKey_skipSpace]

theorem readKey_of_denotes {w body cs : List Char} (hw : Blank w) (hk : Denotes body cs)
    (r : List Char) :
    readKey ((w ++ '"' :: (body ++ '"' :: r)).map .char) = .ok (cs, r.map .char) := by
  rw [readKey, Json.skipSpace_blank_cons hw rfl, Json.expect_self]
  exact Json.readText_of_denotes hk r

theorem exists_denotes_of_readKey {cs : List Char} (h : readKey (s.map .char) = .ok (cs, q)) :
    ∃ w body r, s = w ++ '"' :: (body ++ '"' :: r) ∧ Blank w ∧ Denotes body cs ∧
      q = r.map .char := by
  obtain ⟨t, he, h⟩ := bind_eq_ok.mp h
  obtain ⟨w, t, rfl, hw, hs, -⟩ := Json.exists_blank s
  rw [hs] at he
  obtain ⟨t, rfl, rfl⟩ := Json.expect_map he
  obtain ⟨body, r, rfl, hd, rfl⟩ := Json.exists_denotes_of_readText h
  exact ⟨w, body, r, rfl, hw, hd, rfl⟩

/-- A member is read if it may be noted, and as that. -/
theorem readMember_iff {seen seen' : Seen} {m : Member} {i : List Char} (h : m.Written i)
    (hr : Stops r) :
    readMember seen ((i ++ r).map .char) = .ok (seen', q) ↔
      Noted seen m seen' ∧ q = r.map .char := by
  cases h with
  | @written key w body w' w'' v hw hk hw' hw'' hv =>
  have hread : readKey ((w ++ '"' :: (body ++ '"' :: (w' ++ ':' :: (w'' ++ v))) ++ r).map .char) =
      .ok (key.toList, (w' ++ ':' :: (w'' ++ (v ++ r))).map .char) := by
    rw [← readKey_of_denotes hw hk]
    simp only [List.append_assoc, List.cons_append]
  rw [readMember, hread]
  simp only [ofJsonFault_ok, bind, Except.bind, Json.skipSpace_blank_cons hw' (c := ':') rfl,
    Json.expect_self]
  cases hf : Field.ofKey? key.toList with
  | some field =>
    obtain rfl := ofKey?_eq_some_iff.mp hf
    dsimp only
    constructor
    · intro h
      split at h
      · cases h
      · next hn =>
        obtain ⟨⟨a, t⟩, hv', h⟩ := bind_eq_ok.mp h
        obtain ⟨hr, rfl⟩ := (readValue_iff hw'' hv r).mp hv'
        obtain ⟨rfl, rfl⟩ := Prod.mk.inj (Except.ok.inj h)
        exact ⟨.known (Option.not_isSome_iff_eq_none.mp hn) hr, rfl⟩
    · rintro ⟨hm, rfl⟩
      generalize hk : field.key = key at hm
      cases hm with
      | unknown hm => exact absurd hk.symm (hm field)
      | @known field' _ a hn hv' =>
        obtain rfl := key_injective hk
        rw [hn, if_neg (by decide), (readValue_iff hw'' hv r).mpr ⟨hv', rfl⟩]
  | none =>
    have hne (field : Field) : key ≠ field.key := fun he => by
      rw [ofKey?_eq_some_iff.mpr he] at hf
      cases hf
    dsimp only
    rw [Json.skipValue_of_formed hw'' hv hr]
    constructor
    · intro h
      obtain ⟨rfl, rfl⟩ := Prod.mk.inj (Except.ok.inj h)
      exact ⟨.unknown hne, rfl⟩
    · rintro ⟨hm, rfl⟩
      generalize hk : (⟨key, v⟩ : Member) = m at hm
      cases hm with
      | known => exact absurd (congrArg Member.key hk) (hne _)
      | unknown => rfl

theorem exists_member {seen seen' : Seen} (h : readMember seen (s.map .char) = .ok (seen', q)) :
    ∃ (m : Member) (i r : List Char), s = i ++ r ∧ m.Written i ∧ q = r.map .char := by
  obtain ⟨⟨cs, t⟩, hk, h⟩ := bind_eq_ok.mp h
  obtain ⟨w, body, t, rfl, hw, hd, rfl⟩ := exists_denotes_of_readKey (ofJsonFault_eq_ok.mp hk)
  have hd' : Denotes body (String.ofList cs).toList := by rwa [String.toList_ofList]
  -- Whatever the key is, a colon and a value follow it.
  have hrest : ∃ w' w'' v r, t = w' ++ ':' :: (w'' ++ (v ++ r)) ∧ Blank w' ∧ Blank w'' ∧
      Formed .value v ∧ q = r.map .char := by
    obtain ⟨w', t, rfl, hw', hs, -⟩ := Json.exists_blank t
    dsimp only at h
    rw [hs] at h
    split at h
    · split at h
      · cases h
      obtain ⟨u, he, h⟩ := bind_eq_ok.mp h
      obtain ⟨t, rfl, rfl⟩ := Json.expect_map (ofJsonFault_eq_ok.mp he)
      obtain ⟨⟨a, u⟩, hv, h⟩ := bind_eq_ok.mp h
      obtain ⟨w'', v, r, rfl, hw'', hr, rfl⟩ := exists_reads hv
      cases h
      exact ⟨w', w'', v, r, rfl, hw', hw'', hr.formed, rfl⟩
    · obtain ⟨u, he, h⟩ := bind_eq_ok.mp h
      obtain ⟨t, rfl, rfl⟩ := Json.expect_map (ofJsonFault_eq_ok.mp he)
      obtain ⟨u, hv, h⟩ := bind_eq_ok.mp h
      obtain ⟨w'', v, r, rfl, hw'', hf, rfl⟩ :=
        Json.exists_formed_of_skipValue (ofJsonFault_eq_ok.mp hv)
      cases h
      exact ⟨w', w'', v, r, rfl, hw', hw'', hf, rfl⟩
  obtain ⟨w', w'', v, r, rfl, hw', hw'', hv, rfl⟩ := hrest
  exact ⟨⟨String.ofList cs, v⟩, _, r, by simp, .written hw hd' hw' hw'' hv, rfl⟩

/-! ## Objects -/

theorem Further.stops {ms : List Member} {x : List Char} (h : Further Member.Written '\x7d' ms x)
    (r : List Char) : Stops (x ++ r) :=
  (Further.formed (f := .object) Member.Written.formed h).stops r

theorem readMembers_close_iff {first : Bool} {seen : Seen} {w : List Char} {d : Details}
    (hw : Blank w) :
    readMembers first seen ((w ++ ['\x7d'] ++ r).map .char) = .ok (d, q) ↔
      (∃ seen', NotedAll seen [] seen' ∧ seen'.details = .ok d) ∧ q = r.map .char := by
  have hs : skipSpace ((w ++ ['\x7d'] ++ r).map .char) = .char '\x7d' :: r.map .char := by
    rw [List.append_assoc]
    exact Json.skipSpace_blank_cons hw (by decide) _
  rw [readMembers_of_close hs]
  constructor
  · intro h
    cases hd : seen.details with
    | error e =>
      rw [hd] at h
      cases h
    | ok d' =>
      rw [hd] at h
      obtain ⟨rfl, rfl⟩ := Prod.mk.inj (Except.ok.inj h)
      exact ⟨⟨seen, .nil, hd⟩, rfl⟩
  · rintro ⟨⟨_, ⟨⟩, hd⟩, rfl⟩
    rw [hd]
    rfl

theorem readMembers_further_iff {ms : List Member} {x : List Char}
    (h : Further Member.Written '\x7d' ms x) {seen : Seen} {d : Details} :
    readMembers false seen ((x ++ r).map .char) = .ok (d, q) ↔
      (∃ seen', NotedAll seen ms seen' ∧ seen'.details = .ok d) ∧ q = r.map .char := by
  induction h generalizing seen with
  | last hw => exact readMembers_close_iff hw
  | @more m ms w i x hw hi hx ih =>
    have hs : skipSpace ((w ++ ',' :: (i ++ x) ++ r).map .char) =
        .char ',' :: (i ++ (x ++ r)).map .char := by
      rw [List.append_assoc, List.cons_append, List.append_assoc]
      exact Json.skipSpace_blank_cons hw (by decide) _
    rw [readMembers_item false hs (by decide) (Json.expect_self ',' _), bind_eq_ok]
    constructor
    · rintro ⟨⟨seen', t⟩, hm, h⟩
      obtain ⟨hn, rfl⟩ := (readMember_iff hi (hx.stops r)).mp hm
      obtain ⟨⟨seen'', hns, hd⟩, rfl⟩ := ih.mp h
      exact ⟨⟨seen'', .cons hn hns, hd⟩, rfl⟩
    · rintro ⟨⟨seen'', _ | ⟨hn, hns⟩, hd⟩, rfl⟩
      exact ⟨(_, _), (readMember_iff hi (hx.stops r)).mpr ⟨hn, rfl⟩, ih.mpr ⟨⟨seen'', hns, hd⟩, rfl⟩⟩

/-- An object is read if each field is there once. -/
theorem readMembers_iff {ms : List Member} {b : List Char} {d : Details}
    (h : Items Member.Written '\x7d' ms b) (r : List Char) :
    readMembers true .none ((b ++ r).map .char) = .ok (d, q) ↔
      (Once .make d.make ms ∧ Once .model d.model ms) ∧ q = r.map .char := by
  rw [← noted_details_iff]
  cases h with
  | empty hw => exact readMembers_close_iff hw
  | @items m ms i x hi hx =>
    obtain ⟨w, c, t, rfl, hw, hs, hc⟩ := hi.formed.item_head
    have hs : skipSpace (((w ++ c :: t) ++ x ++ r).map .char) = .char c :: (t ++ (x ++ r)).map .char := by
      simp only [List.append_assoc]
      exact Json.skipSpace_blank_cons hw hs _
    rw [readMembers_item true hs (fun he => hc (Piece.char.inj he)) rfl, ← hs, readMember_skipSpace,
      bind_eq_ok, List.append_assoc]
    constructor
    · rintro ⟨⟨seen', t⟩, hm, h⟩
      obtain ⟨hn, rfl⟩ := (readMember_iff hi (hx.stops r)).mp hm
      obtain ⟨⟨seen'', hns, hd⟩, rfl⟩ := (readMembers_further_iff hx).mp h
      exact ⟨⟨seen'', .cons hn hns, hd⟩, rfl⟩
    · rintro ⟨⟨seen'', _ | ⟨hn, hns⟩, hd⟩, rfl⟩
      exact ⟨(_, _), (readMember_iff hi (hx.stops r)).mpr ⟨hn, rfl⟩,
        (readMembers_further_iff hx).mpr ⟨⟨seen'', hns, hd⟩, rfl⟩⟩

theorem Member.Written.padded {m : Member} {w i : List Char} (h : m.Written i) (hw : Blank w) :
    m.Written (w ++ i) := by
  cases h with
  | written hw₀ hk hw' hw'' hv =>
    rw [← List.append_assoc]
    exact .written (Json.blank_append hw hw₀) hk hw' hw'' hv

/-- What has been read are members, the first without a comma before it. -/
theorem exists_members {first : Bool} {seen : Seen} {d : Details}
    (h : readMembers first seen (s.map .char) = .ok (d, q)) :
    ∃ ms b r, s = b ++ r ∧ q = r.map .char ∧
      (if first then Items Member.Written '\x7d' ms b else Further Member.Written '\x7d' ms b) := by
  generalize hp : s.map Piece.char = t at h
  fun_induction readMembers first seen t generalizing s with
  | case1 => cases h
  | case2 first seen t u hs =>
    rw [← hp] at hs
    obtain ⟨w, c, r, rfl, hw, hc, rfl⟩ := Json.exists_skipSpace_cons hs
    cases hc
    cases hd : seen.details with
    | error e =>
      rw [hd] at h
      cases h
    | ok d' =>
      rw [hd] at h
      obtain ⟨rfl, rfl⟩ := Prod.mk.inj (Except.ok.inj h)
      refine ⟨[], w ++ ['\x7d'], r, by simp, rfl, ?_⟩
      split
      · exact .empty hw
      · exact .last hw
  | case3 => cases h
  | case4 => cases h
  | case5 first seen t p u hs _ v hv seen' r' hm ih =>
    rw [← hp] at hs
    obtain ⟨w, c, r, rfl, hw, rfl, rfl⟩ := Json.exists_skipSpace_cons hs
    cases first with
    | true =>
      obtain rfl := Except.ok.inj hv
      obtain ⟨m, i, r, hi, hw', rfl⟩ := exists_member (s := c :: r) hm
      obtain ⟨ms, x, r, rfl, rfl, hx⟩ := ih rfl h
      refine ⟨m :: ms, (w ++ i) ++ x, r, ?_, rfl, .items (hw'.padded hw) hx⟩
      rw [hi, List.append_assoc, List.append_assoc]
    | false =>
      obtain ⟨t, ht, rfl⟩ := Json.expect_map (s := c :: r) hv
      obtain ⟨m, i, r, rfl, hw', rfl⟩ := exists_member hm
      obtain ⟨ms, x, r, rfl, rfl, hx⟩ := ih rfl h
      refine ⟨m :: ms, w ++ ',' :: (i ++ x), r, ?_, rfl, .more hw hw' hx⟩
      rw [ht, List.append_assoc, List.cons_append, List.append_assoc]

end Garage.Details

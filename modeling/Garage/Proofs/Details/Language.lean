import Garage.Proofs.Details.Reading

/-!
# The texts that are details

A text gives details exactly if it is one of the values that show them, up to white space around it. For an
object this depends on the members of the two fields alone, and not on their order.
-/

namespace Garage.Details

open Garage.Text (Piece)
open Garage.Json (Blank Formed skipSpace)

variable {s r : List Char} {q : List Piece} {d : Details} {t : String}

/-! ## The value and what is around it -/

theorem readDetails_listing_iff {vs : List (List Char)} {w v : List Char} (hw : Blank w)
    (h : Listing vs v) (r : List Char) :
    readDetails ((w ++ (v ++ r)).map .char) = .ok (d, q) ↔
      (∃ x y, vs = [x, y] ∧ Reads x d.make ∧ Reads y d.model) ∧ q = r.map .char := by
  cases h with
  | brackets h =>
    rw [List.cons_append, readDetails, Json.skipSpace_blank_cons hw (by decide)]
    exact readArray_iff h r

theorem readDetails_object_iff {ms : List Member} {w v : List Char} (hw : Blank w)
    (h : Object ms v) (r : List Char) :
    readDetails ((w ++ (v ++ r)).map .char) = .ok (d, q) ↔
      (Once .make d.make ms ∧ Once .model d.model ms) ∧ q = r.map .char := by
  cases h with
  | brackets h =>
    rw [List.cons_append, readDetails, Json.skipSpace_blank_cons hw (by decide)]
    exact readMembers_iff h r

theorem exists_container (h : readDetails (s.map .char) = .ok (d, q)) :
    ∃ w v r, s = w ++ (v ++ r) ∧ Blank w ∧ q = r.map .char ∧
      ((∃ vs, Listing vs v) ∨ ∃ ms, Object ms v) := by
  unfold readDetails at h
  split at h
  · next hs =>
    obtain ⟨w, c, t, rfl, hw, hc, rfl⟩ := Json.exists_skipSpace_cons hs
    cases hc
    obtain ⟨vs, b, r, rfl, hb, rfl⟩ := exists_listing h
    exact ⟨w, '[' :: b, r, rfl, hw, rfl, Or.inl ⟨vs, .brackets hb⟩⟩
  · next hs =>
    obtain ⟨w, c, t, rfl, hw, hc, rfl⟩ := Json.exists_skipSpace_cons hs
    cases hc
    obtain ⟨ms, b, r, rfl, rfl, hb⟩ := exists_members h
    exact ⟨w, '\x7b' :: b, r, rfl, hw, rfl, Or.inr ⟨ms, .brackets hb⟩⟩
  · exact absurd h refuse_ne_ok

theorem blank_iff : Blank r ↔ skipSpace (r.map .char) = [] := by
  obtain ⟨w, u, rfl, hw, hs, hu⟩ := Json.exists_blank r
  rw [hs, List.map_eq_nil_iff]
  constructor
  · intro h
    cases u with
    | nil => rfl
    | cons c u =>
      have hc := Json.isSpace_iff.mpr (h c (List.mem_append_right w List.mem_cons_self))
      rw [hu c rfl] at hc
      cases hc
  · rintro rfl
    rwa [List.append_nil]

theorem ofJson_eq_ok_iff :
    ofJson t = .ok d ↔ ∃ q, readDetails (t.toList.map .char) = .ok (d, q) ∧ skipSpace q = [] := by
  rw [ofJson, ofPieces]
  cases h : readDetails (t.toList.map .char) with
  | error e =>
    constructor
    · intro h
      cases h
    · rintro ⟨_, h, -⟩
      cases h
  | ok p =>
    obtain ⟨d', q⟩ := p
    simp only [bind, Except.bind, Except.ok.injEq, Prod.mk.injEq, List.isEmpty_iff]
    constructor
    · intro h
      split at h
      · next hq => exact ⟨q, ⟨Except.ok.inj h, rfl⟩, hq⟩
      · cases h
    · rintro ⟨_, ⟨rfl, rfl⟩, hq⟩
      rw [if_pos hq]

/-- A padded value is judged by itself, if the reader stops behind it. -/
theorem ofJson_padded_iff {P : List Char → Prop} {C : Details → Prop}
    (hP : ∀ {w v r d q}, Blank w → P v →
      (readDetails ((w ++ (v ++ r)).map .char) = .ok (d, q) ↔ C d ∧ q = r.map .char))
    (ht : Padded P t) : ofJson t = .ok d ↔ C d := by
  obtain ⟨w, v, w', ht, hw, hw', hv⟩ := ht
  rw [ofJson_eq_ok_iff, ht]
  constructor
  · rintro ⟨q, h, -⟩
    exact ((hP hw hv).mp h).1
  · exact fun h => ⟨_, (hP hw hv).mpr ⟨h, rfl⟩, blank_iff.mp hw'⟩

theorem ofJson_listing_iff {vs : List (List Char)} (ht : Padded (Listing vs) t) :
    ofJson t = .ok d ↔ ∃ x y, vs = [x, y] ∧ Reads x d.make ∧ Reads y d.model :=
  ofJson_padded_iff (fun hw h => readDetails_listing_iff hw h _) ht

theorem ofJson_object_iff {ms : List Member} (ht : Padded (Object ms) t) :
    ofJson t = .ok d ↔ Once .make d.make ms ∧ Once .model d.model ms :=
  ofJson_padded_iff (fun hw h => readDetails_object_iff hw h _) ht

theorem ofJson_iff_describes : ofJson t = .ok d ↔ Padded (Describes d) t := by
  constructor
  · intro h
    obtain ⟨q, hq, hr⟩ := ofJson_eq_ok_iff.mp h
    obtain ⟨w, v, r, ht, hw, rfl, hv⟩ := exists_container hq
    have hr := blank_iff.mpr hr
    obtain ⟨vs, hv⟩ | ⟨ms, hv⟩ := hv
    · obtain ⟨x, y, rfl, hx, hy⟩ := (ofJson_listing_iff ⟨w, v, r, ht, hw, hr, hv⟩).mp h
      exact ⟨w, v, r, ht, hw, hr, .listing hv hx hy⟩
    · obtain ⟨hmake, hmodel⟩ := (ofJson_object_iff ⟨w, v, r, ht, hw, hr, hv⟩).mp h
      exact ⟨w, v, r, ht, hw, hr, .object hv hmake hmodel⟩
  · rintro ⟨w, v, w', ht, hw, hw', hv⟩
    cases hv with
    | listing hv hx hy => exact (ofJson_listing_iff ⟨w, v, w', ht, hw, hw', hv⟩).mpr ⟨_, _, rfl, hx, hy⟩
    | object hv hmake hmodel => exact (ofJson_object_iff ⟨w, v, w', ht, hw, hw', hv⟩).mpr ⟨hmake, hmodel⟩

/-! ## What it does not depend on, and what it refuses -/

/-- Members of one of the two fields; the others are unknown. -/
def Member.known (m : Member) : Bool :=
  m.key = Field.make.key ∨ m.key = Field.model.key

theorem valuesOf_filter_known (field : Field) (ms : List Member) :
    valuesOf field (ms.filter Member.known) = valuesOf field ms := by
  rw [valuesOf, valuesOf, List.filter_filter]
  congr 1
  apply List.filter_congr
  intro m _
  cases field <;> simp +contextual [Member.known]

theorem once_congr {field : Field} {a : String} {ms ms' : List Member}
    (h : (ms.filter Member.known).Perm (ms'.filter Member.known)) (ho : Once field a ms) :
    Once field a ms' := by
  obtain ⟨v, hv, hr⟩ := ho
  have hp : (valuesOf field (ms.filter Member.known)).Perm
      (valuesOf field (ms'.filter Member.known)) := (h.filter _).map _
  rw [valuesOf_filter_known, valuesOf_filter_known, hv, List.singleton_perm] at hp
  exact ⟨v, hp.symm, hr⟩

theorem refused_iff : (∃ e, ofJson t = .error e) ↔ ∀ d, ofJson t ≠ .ok d := by
  cases ofJson t with
  | error e => exact iff_of_true ⟨e, rfl⟩ nofun
  | ok d => exact iff_of_false nofun fun h => h d rfl

/-- The bracket that closes a container is found in one way only. -/
theorem rest_eq_of_body {f f' : Json.Frame} {w w' b b' r' : List Char} (hw : Blank w)
    (hw' : Blank w') (hb : Formed (.body f) b) (hb' : Formed (.body f') b')
    (h : w ++ f.opens :: (b ++ r) = w' ++ f'.opens :: (b' ++ r')) : r = r' := by
  have skips {f : Json.Frame} {w b r : List Char} (hw : Blank w) (hb : Formed (.body f) b) :
      Json.skipValue ((w ++ f.opens :: (b ++ r)).map .char) = .ok (r.map .char) := by
    rw [Json.skipValue, Json.skip_value_container (Json.skipSpace_blank_cons hw f.opens_not_space _)]
    exact (hb.passed [] r).trans (Json.skip_after_nil _)
  have hr := skips (r := r) hw hb
  rw [h, skips hw' hb'] at hr
  exact ((List.map_inj_right fun _ _ hc => Piece.char.inj hc).mp (Except.ok.inj hr)).symm

/-- Text after the value is refused, unless it is white space. -/
theorem blank_of_ofJson {w v : List Char} (hw : Blank w) (hv : Formed .value v)
    (h : ofJson (String.ofList (w ++ (v ++ r))) = .ok d) : Blank r := by
  obtain ⟨w', v', r', he, hw', hr', hd⟩ := ofJson_iff_describes.mp h
  obtain ⟨f', b', rfl, hb'⟩ := hd.formed
  rw [String.toList_ofList] at he
  cases hv with
  | scalar hv =>
    obtain ⟨c, t, rfl, hc⟩ := hv.exists_starts
    have hs := Json.skipSpace_blank_cons hw hc.not_space (t ++ r)
    rw [← List.cons_append, he] at hs
    have hs' := Json.skipSpace_blank_cons hw' f'.opens_not_space (b' ++ r')
    rw [← List.cons_append, hs] at hs'
    obtain rfl := Piece.char.inj (List.cons.inj hs').1
    exact absurd hc (by cases f' <;> decide)
  | container hb =>
    obtain rfl := rest_eq_of_body hw hw' hb hb' he
    exact hr'

/-- An object is refused if a field is missing, doubled or no text. -/
theorem object_refused {ms : List Member} {field : Field} (ht : Padded (Object ms) t)
    (hbad : (valuesOf field ms).length ≠ 1 ∨ ∃ v ∈ valuesOf field ms, ∀ a, ¬ Reads v a) :
    ∃ e, ofJson t = .error e := by
  rw [refused_iff]
  intro d h
  have hd := (ofJson_object_iff ht).mp h
  obtain ⟨a, v, hv, hr⟩ : ∃ a, Once field a ms := by
    cases field with
    | make => exact ⟨_, hd.1⟩
    | model => exact ⟨_, hd.2⟩
  rw [hv] at hbad
  obtain hn | ⟨v', hv', hbad⟩ := hbad
  · exact hn rfl
  · obtain rfl := List.mem_singleton.mp hv'
    exact hbad a hr

/-- An array is refused unless it is two texts. -/
theorem listing_refused {vs : List (List Char)} (ht : Padded (Listing vs) t)
    (hbad : vs.length ≠ 2 ∨ ∃ v ∈ vs, ∀ a, ¬ Reads v a) : ∃ e, ofJson t = .error e := by
  rw [refused_iff]
  intro d h
  obtain ⟨x, y, rfl, hx, hy⟩ := (ofJson_listing_iff ht).mp h
  obtain hn | ⟨v, hv, hbad⟩ := hbad
  · exact hn rfl
  · rcases List.mem_pair.mp hv with rfl | rfl
    · exact hbad _ hx
    · exact hbad _ hy

/-- A text gives details exactly if it shows them, up to white space around it: as an array of two texts,
or as an object with a text in each field, once. Neither the order of the members nor the unknown ones make
a difference; a field that is missing, doubled or no text, an array that is not two texts, and text
behind the value are refused. -/
theorem ofJson_accepts_format :
    (∀ t d, ofJson t = .ok d ↔ Padded (Describes d) t) ∧
    (∀ ms ms' t t', Padded (Object ms) t → Padded (Object ms') t' →
      (ms.filter Member.known).Perm (ms'.filter Member.known) →
      ∀ d, ofJson t = .ok d ↔ ofJson t' = .ok d) ∧
    (∀ ms t field, Padded (Object ms) t →
      ((valuesOf field ms).length ≠ 1 ∨ ∃ v ∈ valuesOf field ms, ∀ a, ¬ Reads v a) →
      ∃ e, ofJson t = .error e) ∧
    (∀ vs t, Padded (Listing vs) t → (vs.length ≠ 2 ∨ ∃ v ∈ vs, ∀ a, ¬ Reads v a) →
      ∃ e, ofJson t = .error e) ∧
    (∀ w v r, Blank w → Formed .value v → ¬ Blank r →
      ∃ e, ofJson (String.ofList (w ++ (v ++ r))) = .error e) := by
  refine ⟨fun t d => ofJson_iff_describes, ?_, fun _ _ _ => object_refused,
    fun _ _ => listing_refused, ?_⟩
  · intro ms ms' t t' ht ht' hp d
    rw [ofJson_object_iff ht, ofJson_object_iff ht']
    constructor
    · exact fun h => ⟨once_congr hp h.1, once_congr hp h.2⟩
    · exact fun h => ⟨once_congr hp.symm h.1, once_congr hp.symm h.2⟩
  · intro w v r hw hv hr
    rw [refused_iff]
    exact fun d h => hr (blank_of_ofJson hw hv h)

end Garage.Details

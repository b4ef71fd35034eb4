import Garage.Proofs.Details.Reading
import Garage.Proofs.Web.Views

/-!
# Details that were cut off

The JSON text of details is followed to every place where it may be cut: inside an escape, inside a text,
between key and value, between members. Wherever that is, the reader asks for more, and what it has read so
far is never taken for details.
-/

namespace Garage

/-- The beginning of a text, but not all of it. -/
def Cut (p t : List Char) : Prop := p <+: t ∧ p ≠ t

theorem not_cut_nil (p : List Char) : ¬ Cut p [] := by
  rintro ⟨hp, hne⟩
  exact hne (List.prefix_nil.mp hp)

theorem cut_cons {c : Char} {p t : List Char} (h : Cut p (c :: t)) :
    p = [] ∨ ∃ p', p = c :: p' ∧ Cut p' t := by
  obtain ⟨hp, hne⟩ := h
  rcases List.prefix_cons_iff.mp hp with rfl | ⟨p', rfl, hp'⟩
  · exact Or.inl rfl
  · refine Or.inr ⟨p', rfl, hp', ?_⟩
    rintro rfl
    exact hne rfl

/-- A text of two parts is cut in the first of them, or behind it and in the second. -/
theorem cut_append {a b p : List Char} (h : Cut p (a ++ b)) :
    Cut p a ∨ ∃ p', p = a ++ p' ∧ Cut p' b := by
  induction a generalizing p with
  | nil => exact Or.inr ⟨p, rfl, h⟩
  | cons c a ih =>
    rcases cut_cons h with rfl | ⟨p, rfl, hp⟩
    · exact Or.inl ⟨List.nil_prefix, nofun⟩
    · rcases ih hp with hp | ⟨p', rfl, hp'⟩
      · refine Or.inl ⟨(List.prefix_cons_inj c).mpr hp.1, fun he => hp.2 (List.cons.inj he).2⟩
      · exact Or.inr ⟨p', rfl, hp'⟩

/-- What a text is cut to before its last character is a beginning of the rest. -/
theorem prefix_of_cut_concat {a p : List Char} {c : Char} (h : Cut p (a ++ [c])) : p <+: a := by
  rcases cut_append h with h | ⟨p', rfl, hp'⟩
  · exact h.1
  · rcases cut_cons hp' with rfl | ⟨p'', -, hp''⟩
    · exact ⟨[], (List.append_nil _).trans (List.append_nil a)⟩
    · exact absurd hp'' (not_cut_nil _)

theorem eq_nil_of_cut_singleton {c : Char} {p : List Char} (h : Cut p [c]) : p = [] :=
  List.prefix_nil.mp (prefix_of_cut_concat (show Cut p ([] ++ [c]) from h))

namespace Json

open Garage.Text (Piece)

/-! ## Inside a text -/

theorem scanText_escape_error {escape : EscapeReader} {r : List Piece} {e : Fault}
    (h : escape.read r = .error e) (acc : List Char) (sound : Bool) :
    scanText escape acc sound (.char '\\' :: r) = .error e := by
  rw [scanText, if_neg (by decide), if_pos rfl]
  split
  · next h' => rw [h] at h'; cases h'
  · next h' => rw [h] at h'; cases h'; rfl

theorem width_hexDigit {n : Nat} (h : n < 16) : (Piece.char (hexDigit n)).width = 1 := by
  have all : ∀ n : Fin 16, (Piece.char (hexDigit n.val)).width = 1 := by decide
  exact all ⟨n, h⟩

/-- Four digits that are cut are missed. -/
theorem hex4_cut {x : Nat} (hx : x < 16) (y : Char) {p : List Char}
    (h : Cut p ['0', '0', hexDigit x, y]) : hex4 (p.map .char) = .error .ended := by
  rcases cut_cons h with rfl | ⟨p₁, rfl, h₁⟩
  · rfl
  rcases cut_cons h₁ with rfl | ⟨p₂, rfl, h₂⟩
  · rfl
  rcases cut_cons h₂ with rfl | ⟨p₃, rfl, h₃⟩
  · rfl
  obtain rfl := eq_nil_of_cut_singleton h₃
  unfold hex4
  apply if_pos
  show 0 + 1 + 1 + (Piece.char (hexDigit x)).width < 4
  rw [width_hexDigit hx]
  decide

/-- An escape that is cut is missed, however long it is. -/
theorem scanText_cut_escape {e p : List Char} (h : Cut p ('\\' :: e))
    (he : ∀ p', Cut p' e → EscapeReader.kept.read (p'.map .char) = .error .ended)
    (acc : List Char) (sound : Bool) :
    scanText .kept acc sound (p.map .char) = .error .ended := by
  rcases cut_cons h with rfl | ⟨p', rfl, hp'⟩
  · rw [List.map_nil, scanText]
  · exact scanText_escape_error (he p' hp') acc sound

theorem kept_read_cut_short {e : Char} {p : List Char} (h : Cut p [e]) :
    EscapeReader.kept.read (p.map .char) = .error .ended := by
  rw [eq_nil_of_cut_singleton h]
  rfl

theorem kept_read_cut_control {x : Nat} (hx : x < 16) (y : Char) {p : List Char}
    (h : Cut p ['u', '0', '0', hexDigit x, y]) :
    EscapeReader.kept.read (p.map .char) = .error .ended := by
  rcases cut_cons h with rfl | ⟨p', rfl, hp'⟩
  · rfl
  · show unicodeEscape _ = _
    rw [unicodeEscape, hex4_cut hx y hp']
    rfl

/-- A written character that is cut is missed. -/
theorem scanText_cut_char {c : Char} {p : List Char} (h : Cut p (writeChar c)) (acc : List Char)
    (sound : Bool) : scanText .kept acc sound (p.map .char) = .error .ended := by
  unfold writeChar at h
  split at h
  · exact scanText_cut_escape h (fun _ => kept_read_cut_short) acc sound
  split at h
  · exact scanText_cut_escape h (fun _ => kept_read_cut_short) acc sound
  split at h
  · exact scanText_cut_escape h (fun _ => kept_read_cut_short) acc sound
  split at h
  · exact scanText_cut_escape h (fun _ => kept_read_cut_short) acc sound
  split at h
  · exact scanText_cut_escape h (fun _ => kept_read_cut_short) acc sound
  split at h
  · exact scanText_cut_escape h (fun _ => kept_read_cut_short) acc sound
  split at h
  · exact scanText_cut_escape h (fun _ => kept_read_cut_short) acc sound
  split at h
  · next hc =>
    have hn : c.toNat < 32 := hc
    exact scanText_cut_escape h (fun _ => kept_read_cut_control (by omega) _) acc sound
  · rw [eq_nil_of_cut_singleton h, List.map_nil, scanText]

/-- A text without its closing quote is missed the rest of. -/
theorem scanText_unclosed {cs p : List Char} (h : p <+: cs.flatMap writeChar) (acc : List Char)
    (sound : Bool) : scanText .kept acc sound (p.map .char) = .error .ended := by
  induction cs generalizing p acc with
  | nil =>
    rw [List.prefix_nil.mp h, List.map_nil, scanText]
  | cons c cs ih =>
    rw [List.flatMap_cons] at h
    by_cases hp : p <+: writeChar c ∧ p ≠ writeChar c
    · exact scanText_cut_char hp acc sound
    · obtain ⟨p', rfl⟩ : writeChar c <+: p := by
        rcases List.prefix_or_prefix_of_prefix h (List.prefix_append _ _) with hc | hc
        · exact ⟨[], (List.append_nil _).trans (not_and_not_right.mp hp hc).symm⟩
        · exact hc
      rw [List.map_append, scanText_writeChar]
      exact ih ((List.prefix_append_right_inj _).mp h) _

theorem readText_unclosed {cs p : List Char} (h : p <+: cs.flatMap writeChar) :
    readText (p.map .char) = .error .ended := by
  rw [readText, scanText_unclosed h]

/-- A written text is cut to nothing, or behind its opening quote. -/
theorem cut_writeText {cs p : List Char} (h : Cut p (writeText cs)) :
    p = [] ∨ ∃ p', p = '"' :: p' ∧ p' <+: cs.flatMap writeChar := by
  rcases cut_cons h with rfl | ⟨p', rfl, hp'⟩
  · exact Or.inl rfl
  · exact Or.inr ⟨p', rfl, prefix_of_cut_concat hp'⟩

end Json

namespace Details

open Garage.Text (Piece)
open Garage.Json (skipSpace expect writeText)

/-! ## Inside a member -/

theorem readKey_cut {key p : List Char} (h : Cut p (writeText key)) :
    readKey (p.map .char) = .error .ended := by
  rcases Json.cut_writeText h with rfl | ⟨p', rfl, hp'⟩
  · rfl
  · rw [readKey, List.map_cons, Json.skipSpace_cons (by decide), Json.expect_self]
    exact Json.readText_unclosed hp'

theorem readValue_cut {value p : List Char} (h : Cut p (writeText value)) :
    readValue (p.map .char) = .error (.json .ended) := by
  rcases Json.cut_writeText h with rfl | ⟨p', rfl, hp'⟩
  · rfl
  · rw [readValue, List.map_cons, Json.skipSpace_cons (by decide)]
    show ofJsonFault (Except.map _ (Json.readText (p'.map .char))) = _
    rw [Json.readText_unclosed hp']
    rfl

/-- A member that is cut is missed, whether in its key, before its value or in it. -/
theorem readMember_cut {seen : Seen} {field : Field} (hn : seen.get? field = none) {value : String}
    {p : List Char} (h : Cut p (member field value)) :
    readMember seen (p.map .char) = .error (.json .ended) := by
  rcases cut_append h with hk | ⟨p', rfl, hp⟩
  · rw [readMember, readKey_cut hk]
    rfl
  · rw [readMember, List.map_append, readKey_written]
    simp only [ofJsonFault_ok, bind, Except.bind, ofKey?_key, hn, Option.isSome_none,
      Bool.false_eq_true, if_false]
    rcases cut_cons hp with rfl | ⟨p', rfl, hv⟩
    · rfl
    · rw [List.map_cons, Json.skipSpace_cons (by decide), Json.expect_self]
      simp only [ofJsonFault_ok, readValue_cut hv]

/-! ## Between members -/

theorem readMembers_nil (first : Bool) (seen : Seen) :
    readMembers first seen [] = .error (.json .ended) := by
  rw [readMembers]
  rfl

theorem readMembers_cut_second {d : Details} {p : List Char}
    (h : Cut p (member .model d.model ++ ['\x7d'])) :
    readMembers false ⟨some d.make, none⟩ ((',' :: p).map .char) = .error (.json .ended) := by
  have hs : skipSpace ((',' :: p).map .char) = .char ',' :: p.map .char :=
    Json.skipSpace_cons (by decide) _
  rcases cut_append h with hm | ⟨p', rfl, hp⟩
  · have hm := readMember_cut (rfl : Seen.get? ⟨some d.make, none⟩ .model = none) hm
    rw [readMembers_item false hs (by decide) (Json.expect_self ',' _), hm]
    rfl
  · rw [eq_nil_of_cut_singleton hp, List.map_cons, List.map_append, readMembers_second]
    exact readMembers_nil _ _

theorem readMembers_cut {d : Details} {p : List Char}
    (h : Cut p (member .make d.make ++ ',' :: (member .model d.model ++ ['\x7d']))) :
    readMembers true .none (p.map .char) = .error (.json .ended) := by
  rcases cut_append h with hc | ⟨p', rfl, hp⟩
  · have hm := readMember_cut (rfl : Seen.none.get? .make = none) hc
    obtain ⟨cs, hcs⟩ := member_eq_cons .make d.make
    rw [hcs] at hc
    rcases cut_cons hc with rfl | ⟨p', rfl, -⟩
    · exact readMembers_nil true .none
    · have hs : skipSpace (('"' :: p').map .char) = .char '"' :: p'.map .char :=
        Json.skipSpace_cons (by decide) _
      rw [List.map_cons] at hm
      rw [readMembers_item true hs (by decide) rfl, hm]
      rfl
  · rw [List.map_append, readMembers_first]
    rcases cut_cons hp with rfl | ⟨p', rfl, hc⟩
    · exact readMembers_nil _ _
    · exact readMembers_cut_second hc

theorem ofJson_cut {d : Details} {p : String} (h : Cut p.toList d.jsonList) :
    ofJson p = .error (.json .ended) := by
  have hread : readDetails (p.toList.map .char) = .error (.json .ended) := by
    rw [jsonList_eq] at h
    rcases cut_cons h with hp | ⟨p', hp, hc⟩
    · rw [hp]
      rfl
    · rw [hp, List.map_cons, readDetails, Json.skipSpace_cons (by decide)]
      exact readMembers_cut hc
  rw [ofJson, ofPieces, hread]
  rfl

/-- The JSON text of details, which is what their download is, is read back as the same details, and of
a text that was cut off, at whatever place, the reader says that it ends too early. -/
theorem download_read_whole_only (d : Details) :
    (∀ service segment u, '/' ∉ segment → Web.Names segment u → service u = .ok d →
      (Web.viewed service segment .json).body = d.toJson) ∧
    ofJson d.toJson = .ok d ∧
    (∀ p : String, p.toList <+: d.toJson.toList → p ≠ d.toJson → ofJson p = .error (.json .ended)) := by
  refine ⟨fun service segment u hs hu hd => ?_, ofJson_toJson d, fun p hp hne => ?_⟩
  · rw [Web.viewed_of_names service hs hu, hd]
    rfl
  · rw [toList_toJson] at hp
    refine ofJson_cut ⟨hp, fun he => hne (String.ext ?_)⟩
    rw [he, toList_toJson]

end Details

end Garage

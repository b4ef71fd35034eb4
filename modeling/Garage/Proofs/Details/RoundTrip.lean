import Garage.Details.Json
import Garage.Proofs.Text.Quoted

/-!
# Reading back what was written

The JSON text of details is read back as the same details. Each character of a text is followed by one
lemma through the scanner, whatever way it was written in; a text, a member and the object are then
put together from these.
-/

namespace Garage.Json

open Garage.Text (Piece)

/-! ## One character -/

theorem scanText_quote (escape : EscapeReader) (acc : List Char) (sound : Bool) (r : List Piece) :
    scanText escape acc sound (.char '"' :: r) = .ok ⟨acc, sound, r⟩ := by
  rw [scanText, if_pos rfl]

theorem scanText_plain (escape : EscapeReader) (acc : List Char) (sound : Bool) (r : List Piece)
    {c : Char} (hq : c ≠ '"') (hb : c ≠ '\\') (hs : ¬ c < ' ') :
    scanText escape acc sound (.char c :: r) = scanText escape (c :: acc) sound r := by
  rw [scanText, if_neg hq, if_neg hb, if_neg hs]

theorem scanText_escape {escape : EscapeReader} {r r' : List Piece} {d : Char}
    (h : escape.read r = .ok (d, r')) (acc : List Char) (sound : Bool) :
    scanText escape acc sound (.char '\\' :: r) = scanText escape (d :: acc) sound r' := by
  rw [scanText, if_neg (by decide), if_pos rfl]
  split
  · next h' => rw [h] at h'; cases h'; rfl
  · next h' => rw [h] at h'; cases h'

theorem hex?_hexDigit {n : Nat} (h : n < 16) : Text.hex? (hexDigit n) = some n :=
  Text.hex?_digitChar h

theorem hex4_chars {a b c d : Char} {w x y z : Nat} (ha : Text.hex? a = some w)
    (hb : Text.hex? b = some x) (hc : Text.hex? c = some y) (hd : Text.hex? d = some z)
    (r : List Piece) :
    hex4 (.char a :: .char b :: .char c :: .char d :: r) =
      .ok (((w * 16 + x) * 16 + y) * 16 + z, r) := by
  have hw : ¬ ([Piece.char a, .char b, .char c, .char d].foldl (fun n p => n + p.width) 0 < 4) := by
    have := a.utf8Size_pos
    have := b.utf8Size_pos
    have := c.utf8Size_pos
    have := d.utf8Size_pos
    simp only [List.foldl_cons, List.foldl_nil, Piece.width]
    omega
  rw [hex4]
  simp only [List.take_succ_cons, List.take_zero, if_neg hw, ha, hb, hc, hd]

/-- A character below the space is read back from its code point. -/
theorem kept_read_control {c : Char} (h : c < ' ') (r : List Piece) :
    EscapeReader.kept.read (.char 'u' :: .char '0' :: .char '0' :: .char (hexDigit (c.toNat / 16)) ::
      .char (hexDigit (c.toNat % 16)) :: r) = .ok (c, r) := by
  have hc : c.toNat < 32 := h
  have hz : Text.hex? '0' = some 0 := by decide
  have hn : ((0 * 16 + 0) * 16 + c.toNat / 16) * 16 + c.toNat % 16 = c.toNat := by omega
  show unicodeEscape _ = _
  rw [unicodeEscape, hex4_chars hz hz (hex?_hexDigit (by omega)) (hex?_hexDigit (by omega)), hn]
  have ht : isTrailing c.toNat = false := by simp only [isTrailing]; simp; omega
  have hl : isLeading c.toNat = false := by simp only [isLeading]; simp; omega
  simp only [bind, Except.bind, ht, hl, Bool.false_eq_true, if_false, Char.ofNat_toNat]

/-- One written character is read back, and scanning goes on behind it. -/
theorem scanText_writeChar (c : Char) (acc : List Char) (sound : Bool) (r : List Piece) :
    scanText .kept acc sound ((writeChar c).map .char ++ r) = scanText .kept (c :: acc) sound r := by
  by_cases h1 : c = '"'
  · subst h1
    exact scanText_escape rfl acc sound
  by_cases h2 : c = '\\'
  · subst h2
    exact scanText_escape rfl acc sound
  by_cases h3 : c = '\x08'
  · subst h3
    exact scanText_escape rfl acc sound
  by_cases h4 : c = '\x0c'
  · subst h4
    exact scanText_escape rfl acc sound
  by_cases h5 : c = '\n'
  · subst h5
    exact scanText_escape rfl acc sound
  by_cases h6 : c = '\r'
  · subst h6
    exact scanText_escape rfl acc sound
  by_cases h7 : c = '\t'
  · subst h7
    exact scanText_escape rfl acc sound
  rw [writeChar, if_neg h1, if_neg h2, if_neg h3, if_neg h4, if_neg h5, if_neg h6, if_neg h7]
  by_cases h8 : c < ' '
  · rw [if_pos h8]
    exact scanText_escape (kept_read_control h8 r) acc sound
  · rw [if_neg h8]
    exact scanText_plain .kept acc sound r h1 h2 h8

/-! ## One text -/

theorem scanText_written (cs acc : List Char) (sound : Bool) (r : List Piece) :
    scanText .kept acc sound ((cs.flatMap writeChar).map .char ++ .char '"' :: r) =
      .ok ⟨cs.reverse ++ acc, sound, r⟩ := by
  induction cs generalizing acc with
  | nil => exact scanText_quote .kept acc sound r
  | cons c cs ih =>
    rw [List.flatMap_cons, List.map_append, List.append_assoc, scanText_writeChar, ih,
      List.reverse_cons, List.append_assoc, List.singleton_append]

/-- A written text is read back up to its closing quote. -/
theorem readText_written (cs : List Char) (r : List Piece) :
    readText ((cs.flatMap writeChar).map .char ++ .char '"' :: r) = .ok (cs, r) := by
  rw [readText, scanText_written]
  simp only [if_true, List.append_nil, List.reverse_reverse]

theorem map_writeText (cs : List Char) :
    (writeText cs).map Piece.char =
      .char '"' :: ((cs.flatMap writeChar).map .char ++ [.char '"']) := by
  rw [writeText, List.cons_append, List.map_cons, List.map_append, List.map_cons, List.map_nil]

/-- What stands before something that is no white space stays. -/
theorem skipSpace_cons {p : Piece} (h : isSpace p = false) (r : List Piece) :
    skipSpace (p :: r) = p :: r :=
  List.dropWhile_cons_of_neg (by rw [h]; decide)

theorem expect_self (c : Char) (r : List Piece) : expect c (.char c :: r) = .ok r := by
  rw [expect, if_pos rfl]

end Garage.Json

namespace Garage.Details

open Garage.Text (Piece)
open Garage.Json (skipSpace expect readText writeText writeChar)

/-! ## One member -/

theorem readKey_written (key : List Char) (r : List Piece) :
    readKey ((writeText key).map .char ++ r) = .ok (key, r) := by
  rw [readKey, Json.map_writeText, List.cons_append, Json.skipSpace_cons (by decide),
    Json.expect_self, List.append_assoc]
  exact Json.readText_written key r

theorem readValue_written (value : String) (r : List Piece) :
    readValue ((writeText value.toList).map .char ++ r) = .ok (value, r) := by
  rw [Json.map_writeText, List.cons_append, List.append_assoc, readValue,
    Json.skipSpace_cons (by decide)]
  simp only [List.singleton_append, Json.readText_written, Except.map, String.ofList_toList,
    ofJsonFault_ok]

theorem ofKey?_key (field : Field) : Field.ofKey? field.key.toList = some field := by
  cases field <;> decide

/-- A member that is there for the first time is noted. -/
theorem readMember_written {seen : Seen} {field : Field} (h : seen.get? field = none)
    (value : String) (r : List Piece) :
    readMember seen ((writeText field.key.toList).map .char ++
      .char ':' :: ((writeText value.toList).map .char ++ r)) = .ok (seen.set value field, r) := by
  rw [readMember, readKey_written]
  simp only [ofJsonFault_ok, bind, Except.bind, ofKey?_key, h, Option.isSome_none,
    Bool.false_eq_true, if_false, Json.skipSpace_cons (p := .char ':') (by decide), Json.expect_self,
    readValue_written]

/-! ## The object -/

/-- What is no end of the object is a member, and others may follow it. -/
theorem readMembers_item (first : Bool) {seen : Seen} {s t u : List Piece} {p : Piece}
    (hs : skipSpace s = p :: t) (hp : p ≠ .char '\x7d') (hu : separator first (p :: t) = .ok u) :
    readMembers first seen s = readMember seen u >>= fun m => readMembers false m.1 m.2 := by
  rw [readMembers]
  split
  · next he => rw [hs] at he; cases he
  · next he =>
    rw [hs] at he
    cases he
    rw [if_neg hp]
    split
    · next hu' => rw [hu] at hu'; cases hu'
    · next hu' =>
      rw [hu] at hu'
      cases hu'
      split <;> next hm => rw [hm]; rfl

theorem readMembers_of_close {first : Bool} {seen : Seen} {s t : List Piece}
    (hs : skipSpace s = .char '\x7d' :: t) :
    readMembers first seen s = seen.details.map (·, t) := by
  rw [readMembers]
  split
  · next he => rw [hs] at he; cases he
  · next he =>
    rw [hs] at he
    cases he
    rw [if_pos rfl]

/-- The written member of this name. -/
def member (field : Field) (value : String) : List Char :=
  writeText field.key.toList ++ ':' :: writeText value.toList

/-- The JSON text by its members. -/
theorem jsonList_eq (d : Details) :
    d.jsonList = '\x7b' :: (member .make d.make ++ ',' :: (member .model d.model ++ ['\x7d'])) := by
  -- The literals are replaced before anything is rewritten: rewriting would evaluate them again.
  have hd : d.jsonList = '\x7b' :: (writeText Field.make.key.toList ++ [':']) ++
      writeText d.make.toList ++ (',' :: (writeText Field.model.key.toList ++ [':'])) ++
      writeText d.model.toList ++ ['\x7d'] := rfl
  rw [hd, member, member]
  simp only [List.cons_append, List.append_assoc, List.nil_append]

theorem readMember_member {seen : Seen} {field : Field} (h : seen.get? field = none) (value : String)
    (r : List Piece) :
    readMember seen ((member field value).map .char ++ r) = .ok (seen.set value field, r) := by
  rw [member, List.map_append, List.map_cons, List.append_assoc, List.cons_append]
  exact readMember_written h value r

/-- A member begins with a quote. -/
theorem member_eq_cons (field : Field) (value : String) :
    ∃ cs, member field value = '"' :: cs :=
  ⟨_, rfl⟩

theorem readMembers_first (d : Details) (r : List Piece) :
    readMembers true .none ((member .make d.make).map .char ++ r) =
      readMembers false ⟨some d.make, none⟩ r := by
  obtain ⟨cs, hcs⟩ := member_eq_cons .make d.make
  have hm := readMember_member (rfl : Seen.none.get? .make = none) d.make r
  rw [hcs, List.map_cons, List.cons_append] at hm ⊢
  rw [readMembers_item true (Json.skipSpace_cons (by decide) _) (by decide) rfl, hm]
  rfl

theorem readMembers_second (d : Details) (r : List Piece) :
    readMembers false ⟨some d.make, none⟩ (.char ',' :: ((member .model d.model).map .char ++ r)) =
      readMembers false ⟨some d.make, some d.model⟩ r := by
  have hm := readMember_member (rfl : Seen.get? ⟨some d.make, none⟩ .model = none) d.model r
  have hs : skipSpace (.char ',' :: ((member .model d.model).map .char ++ r)) =
      .char ',' :: ((member .model d.model).map .char ++ r) := Json.skipSpace_cons (by decide) _
  rw [readMembers_item false hs (by decide) (Json.expect_self ',' _), hm]
  rfl

/-- The JSON text of details is read back as the same details. -/
theorem ofJson_toJson (d : Details) : ofJson d.toJson = .ok d := by
  have hread : readDetails (d.jsonList.map .char) = .ok (d, []) := by
    rw [jsonList_eq, List.map_cons, List.map_append, List.map_cons, List.map_append, List.map_cons,
      List.map_nil, readDetails, Json.skipSpace_cons (by decide)]
    show readMembers true .none _ = _
    rw [readMembers_first, readMembers_second,
      readMembers_of_close (t := []) (Json.skipSpace_cons (by decide) [])]
    rfl
  rw [ofJson, toList_toJson, ofPieces, hread]
  rfl

end Garage.Details

import Garage.Proofs.Username
import Garage.Web.Answer
import Mathlib.Data.List.TakeWhile

/-!
# Paths that show a vehicle, and the usernames in them

`ShowsVehicle` and `Names` say in the words of the address what the reader of a path finds out: a path
shows a vehicle when it is a segment without a slash behind a slash, and one of three endings; a
segment names a user when its decoded bytes are a text that has a canonical form. A text may be put
into a segment by escaping each of its bytes, and then the segment names what the text names.
-/

namespace Garage.Web

open Garage.Text (Utf8.encode Utf8.decode?)

/-- The path is this segment and the ending of this view. -/
structure ShowsVehicle (path segment : List Char) (view : View) : Prop where
  path_eq : path = '/' :: (segment ++ view.tail.toList)
  closed : '/' ∉ segment

/-- The segment stands for a text, and that has this canonical form. -/
def Names (segment : List Char) (username : String) : Prop :=
  ∃ name, Utf8.decode? (Text.Percent.decode segment) = some name ∧
    Username.canonical (String.ofList name) = .ok username

theorem names_iff {segment : List Char} (view : View) {u : String} :
    Names segment u ↔ ∃ name, (Route.mk segment view).username? = some name ∧
      Username.canonical name = .ok u := by
  rw [Names, Route.username?]
  constructor
  · rintro ⟨name, hd, hc⟩
    exact ⟨String.ofList name, by rw [hd]; rfl, hc⟩
  · rintro ⟨name, hd, hc⟩
    obtain ⟨cs, hcs, rfl⟩ := Option.map_eq_some_iff.mp hd
    exact ⟨cs, hcs, hc⟩

theorem isCanonical_of_names {segment : List Char} {u : String} (h : Names segment u) :
    Username.IsCanonical u := by
  obtain ⟨_, _, hc⟩ := h
  exact Username.isCanonical_of_canonical hc

/-! ## Reading a path -/

theorem tail_of_ofTail? {tail : List Char} {view : View} (h : View.ofTail? tail = some view) :
    view.tail.toList = tail := by
  have hv := List.find?_some h
  exact beq_iff_eq.mp hv

/-- A path is read as a route exactly when it is that segment and that view's ending. -/
theorem ofPath?_eq_some_iff {path : List Char} {route : Route} :
    Route.ofPath? path = some route ↔ ShowsVehicle path route.segment route.view := by
  constructor
  · intro h
    cases path with
    | nil => cases h
    | cons c r =>
      by_cases hc : c = '/'
      · subst hc
        obtain ⟨view, hv, rfl⟩ := Option.map_eq_some_iff.mp h
        refine ⟨?_, ?_⟩
        · show '/' :: r = '/' :: (r.takeWhile (· != '/') ++ view.tail.toList)
          rw [tail_of_ofTail? hv, List.takeWhile_append_dropWhile]
        · intro hm
          have hs := List.mem_takeWhile_imp hm
          exact absurd hs (by decide)
      · unfold Route.ofPath? at h
        split at h
        · next he => cases he; exact absurd rfl hc
        · cases h
  · intro h
    obtain ⟨segment, view⟩ := route
    have hp := Route.ofPath?_path ⟨segment, view⟩ h.closed
    rwa [Route.path, List.cons_append, ← h.path_eq] at hp

theorem ofPath?_of_shows {path segment : List Char} {view : View}
    (h : ShowsVehicle path segment view) : Route.ofPath? path = some ⟨segment, view⟩ :=
  ofPath?_eq_some_iff.mpr h

theorem ofPath?_eq_none_iff {path : List Char} :
    Route.ofPath? path = none ↔ ¬ ∃ segment view, ShowsVehicle path segment view := by
  constructor
  · rintro h ⟨segment, view, hs⟩
    rw [ofPath?_of_shows hs] at h
    cases h
  · intro h
    cases hr : Route.ofPath? path with
    | none => rfl
    | some route => exact absurd ⟨_, _, ofPath?_eq_some_iff.mp hr⟩ h

/-! ## Escaping a whole text -/

/-- The characters write each of the bytes as `%` and two hexadecimal digits, in either case. -/
inductive EscapesAll : List UInt8 → List Char → Prop
  | nil : EscapesAll [] []
  | cons {b : UInt8} {bytes : List UInt8} {h l : Char} {hi lo : Nat} {cs : List Char}
      (high : Text.hex? h = some hi) (low : Text.hex? l = some lo) (value : b.toNat = 16 * hi + lo)
      (rest : EscapesAll bytes cs) : EscapesAll (b :: bytes) ('%' :: h :: l :: cs)

theorem toNat_of_hex? {c : Char} {n : Nat} (h : Text.hex? c = some n) :
    (48 ≤ c.toNat ∧ c.toNat ≤ 57) ∨ (97 ≤ c.toNat ∧ c.toNat ≤ 102) ∨
      (65 ≤ c.toNat ∧ c.toNat ≤ 70) := by
  unfold Text.hex? at h
  split at h
  · next hc => exact Or.inl hc
  split at h
  · next hc => exact Or.inr (Or.inl hc)
  split at h
  · next hc => exact Or.inr (Or.inr hc)
  · cases h

/-- An ASCII character is one byte, its code. -/
theorem utf8EncodeChar_of_lt {c : Char} (h : c.toNat < 128) :
    String.utf8EncodeChar c = [UInt8.ofNat c.toNat] := by
  have hv : c.val.toNat = c.toNat := rfl
  unfold String.utf8EncodeChar
  simp only [hv]
  rw [if_pos (by omega)]

theorem digit?_of_hex? {c : Char} {n : Nat} (h : Text.hex? c = some n) :
    Text.Percent.digit? (UInt8.ofNat c.toNat) = some n := by
  have hc := toNat_of_hex? h
  rw [Text.Percent.digit?, Text.Utf8.toNat_ofNat_of_lt (by omega), Char.ofNat_toNat, h]

/-- Decoding gives the escaped bytes back. -/
theorem decode_of_escapesAll {bytes : List UInt8} {cs : List Char} (h : EscapesAll bytes cs) :
    Text.Percent.decode cs = bytes := by
  induction h with
  | nil => rfl
  | @cons b bytes h l hi lo cs high low value rest ih =>
    have hh := toNat_of_hex? high
    have hl := toNat_of_hex? low
    have he : Utf8.encode ('%' :: h :: l :: cs) =
        0x25 :: UInt8.ofNat h.toNat :: UInt8.ofNat l.toNat :: Utf8.encode cs := by
      rw [Text.Utf8.encode, List.flatMap_cons, List.flatMap_cons, List.flatMap_cons,
        utf8EncodeChar_of_lt (c := h) (by omega), utf8EncodeChar_of_lt (c := l) (by omega)]
      rfl
    have hb : UInt8.ofNat (16 * hi + lo) = b := by rw [← value, UInt8.ofNat_toNat]
    rw [Text.Percent.decode] at ih ⊢
    rw [he, Text.Percent.decodeBytes, if_pos (by decide), digit?_of_hex? high, digit?_of_hex? low]
    simp only [hb, ih]

/-- Each character is a percent sign or a hexadecimal digit. -/
theorem toNat_of_mem_escapesAll {bytes : List UInt8} {cs : List Char} (h : EscapesAll bytes cs) :
    ∀ c ∈ cs, c.toNat = 37 ∨ (48 ≤ c.toNat ∧ c.toNat ≤ 57) ∨ (97 ≤ c.toNat ∧ c.toNat ≤ 102) ∨
      (65 ≤ c.toNat ∧ c.toNat ≤ 70) := by
  induction h with
  | nil => intro c hc; cases hc
  | cons high low value rest ih =>
    intro c hc
    simp only [List.mem_cons] at hc
    rcases hc with rfl | rfl | rfl | hc
    · exact Or.inl rfl
    · exact Or.inr (toNat_of_hex? high)
    · exact Or.inr (toNat_of_hex? low)
    · exact ih c hc

theorem slash_not_mem_escapesAll {bytes : List UInt8} {cs : List Char} (h : EscapesAll bytes cs) :
    '/' ∉ cs := by
  intro hm
  have hn := toNat_of_mem_escapesAll h '/' hm
  have hs : '/'.toNat = 47 := rfl
  omega

/-- A text that is escaped as a whole is read back as it was. -/
theorem username?_of_escapesAll {name : String} {segment : List Char}
    (h : EscapesAll (Utf8.encode name.toList) segment) (view : View) :
    (Route.mk segment view).username? = some name := by
  rw [Route.username?, decode_of_escapesAll h, Text.Utf8.decode?_encode, Option.map_some,
    String.ofList_toList]

/-- The segment names what the text names. -/
theorem names_of_escapesAll {name u : String} {segment : List Char}
    (h : EscapesAll (Utf8.encode name.toList) segment) :
    Names segment u ↔ Username.canonical name = .ok u := by
  rw [names_iff .text, username?_of_escapesAll h]
  constructor
  · rintro ⟨_, ⟨⟩, hc⟩
    exact hc
  · intro hc
    exact ⟨name, rfl, hc⟩

end Garage.Web

import Garage.Proofs.Json.Number
import Mathlib.Data.List.DropRight

/-!
# Values are skipped as the grammar says

The reader that skips a value keeps the containers that are open in a list, and the grammar nests them.
What the list still demands of the text is written down as `Closes`: for each open container its rest, the
innermost first. A value is passed over whole wherever it stands, and what has been passed over is a value.
-/

namespace Garage.Json

open Garage.Text (Piece)

variable {s : List Char} {q : List Piece} {f : Frame} {frames : List Frame}

/-! ## White space -/

theorem blank_nil : Blank [] := nofun

theorem isSpace_iff {c : Char} :
    isSpace (.char c) = true ↔ c = ' ' ∨ c = '\n' ∨ c = '\t' ∨ c = '\r' := by
  simp only [isSpace, Bool.or_eq_true, beq_iff_eq, or_assoc]

theorem skipSpace_blank {w : List Char} (hw : Blank w) (r : List Char) :
    skipSpace ((w ++ r).map .char) = skipSpace (r.map .char) := by
  rw [List.map_append]
  exact List.dropWhile_append_of_pos (List.forall_mem_map.mpr fun c hc => isSpace_iff.mpr (hw c hc))

/-- The white space in front is dropped, and nothing else. -/
theorem exists_blank (s : List Char) :
    ∃ w r, s = w ++ r ∧ Blank w ∧ skipSpace (s.map .char) = r.map .char ∧
      ∀ c ∈ r.head?, isSpace (.char c) = false := by
  induction s with
  | nil => exact ⟨[], [], rfl, blank_nil, rfl, nofun⟩
  | cons c s ih =>
    cases hc : isSpace (.char c) with
    | false =>
      refine ⟨[], c :: s, rfl, blank_nil, skipSpace_cons hc _, ?_⟩
      rintro _ ⟨⟩
      exact hc
    | true =>
      obtain ⟨w, r, rfl, hw, hs, hr⟩ := ih
      have hcw : Blank (c :: w) := List.forall_mem_cons.mpr ⟨isSpace_iff.mp hc, hw⟩
      exact ⟨c :: w, r, rfl, hcw, (skipSpace_blank hcw r).trans ((skipSpace_blank hw r).symm.trans hs),
        hr⟩

theorem skipSpace_blank_cons {w : List Char} (hw : Blank w) {c : Char}
    (hc : isSpace (.char c) = false) (r : List Char) :
    skipSpace ((w ++ c :: r).map .char) = .char c :: r.map .char :=
  (skipSpace_blank hw _).trans (skipSpace_cons hc _)

theorem exists_skipSpace_cons {p : Piece} (h : skipSpace (s.map .char) = p :: q) :
    ∃ w c r, s = w ++ c :: r ∧ Blank w ∧ p = .char c ∧ q = r.map .char := by
  obtain ⟨w, t, rfl, hw, hs, -⟩ := exists_blank s
  obtain ⟨c, r, rfl, hc, hr⟩ := map_eq_cons (hs.symm.trans h)
  exact ⟨w, c, r, rfl, hw, hc, hr⟩

theorem skipSpace_skipSpace (q : List Piece) : skipSpace (skipSpace q) = skipSpace q :=
  List.dropWhile_idempotent isSpace q

/-! ## Scalars -/

theorem expectAll_append (cs r : List Char) :
    expectAll cs ((cs ++ r).map .char) = .ok (r.map .char) := by
  induction cs with
  | nil => rfl
  | cons c cs ih =>
    rw [expectAll, List.foldlM_cons, List.cons_append, List.map_cons, expect_self]
    exact ih

theorem exists_expectAll {cs : List Char} (h : expectAll cs (s.map .char) = .ok q) :
    ∃ r, s = cs ++ r ∧ q = r.map .char := by
  induction cs generalizing s with
  | nil =>
    cases h
    exact ⟨s, rfl, rfl⟩
  | cons c cs ih =>
    rw [expectAll, List.foldlM_cons] at h
    obtain ⟨t, he, h⟩ := bind_eq_ok.mp h
    obtain ⟨t, rfl, rfl⟩ := expect_map he
    obtain ⟨r, rfl, rfl⟩ := ih h
    exact ⟨r, rfl, rfl⟩

/-- A name that is a value is the letter and the tail that it is known by. -/
theorem literalTail?_eq_some_iff {c : Char} {cs : List Char} :
    literalTail? c = some cs ↔ ∃ name ∈ ["null", "true", "false"], name.toList = c :: cs := by
  constructor
  · intro h
    unfold literalTail? at h
    split at h
    · next hc => cases h; exact ⟨"null", by decide, by rw [hc]; rfl⟩
    split at h
    · next hc => cases h; exact ⟨"true", by decide, by rw [hc]; rfl⟩
    split at h
    · next hc => cases h; exact ⟨"false", by decide, by rw [hc]; rfl⟩
    · cases h
  · rintro ⟨name, hm, hn⟩
    simp only [List.mem_cons, List.not_mem_nil, or_false] at hm
    rcases hm with rfl | rfl | rfl <;> cases hn <;> rfl

theorem exists_digit_of_unsigned {n : List Char} (h : Unsigned n) :
    ∃ d t, n = d :: t ∧ IsDigit d := by
  cases h with
  | @parts whole _ _ hw _ _ =>
    cases whole with
    | nil => exact absurd rfl hw.ne_nil
    | cons d ds => exact ⟨d, _, rfl, hw.all d List.mem_cons_self⟩

/-- The characters that a scalar may begin with. -/
def Starts (c : Char) : Prop :=
  c ∈ ['n', 't', 'f', '-', '"'] ∨ IsDigit c

instance (c : Char) : Decidable (Starts c) :=
  inferInstanceAs (Decidable (_ ∨ _))

theorem Starts.ne {c d : Char} (hc : Starts c) (hd : ¬ Starts d) : c ≠ d := by
  rintro rfl
  exact hd hc

theorem Starts.not_space {c : Char} (hc : Starts c) : isSpace (.char c) = false := by
  rw [Bool.eq_false_iff]
  intro hs
  rcases isSpace_iff.mp hs with rfl | rfl | rfl | rfl <;> exact absurd hc (by decide)

theorem Scalar.exists_starts {v : List Char} (h : Scalar v) : ∃ c t, v = c :: t ∧ Starts c := by
  cases h with
  | literal h =>
    simp only [List.mem_cons, List.not_mem_nil, or_false] at h
    rcases h with rfl | rfl | rfl <;> exact ⟨_, _, rfl, by decide⟩
  | unsigned h =>
    obtain ⟨d, t, rfl, hd⟩ := exists_digit_of_unsigned h
    exact ⟨d, t, rfl, Or.inr hd⟩
  | negative h => exact ⟨_, _, rfl, by decide⟩
  | text h => exact ⟨_, _, rfl, by decide⟩

theorem literalTail?_of_isDigit {c : Char} (hc : IsDigit c) : literalTail? c = none := by
  have hne {d : Char} (hd : ¬ IsDigit d) : c ≠ d := by
    rintro rfl
    exact hd hc
  rw [literalTail?, if_neg (hne (by decide)), if_neg (hne (by decide)), if_neg (hne (by decide))]

theorem skipScalar_of_scalar {v r : List Char} (h : Scalar v) (hr : Stops r) :
    skipScalar ((v ++ r).map .char) = .ok (r.map .char) := by
  cases h with
  | @literal name h =>
    obtain ⟨c, cs, hn⟩ : ∃ c cs, name.toList = c :: cs := by
      simp only [List.mem_cons, List.not_mem_nil, or_false] at h
      rcases h with rfl | rfl | rfl <;> exact ⟨_, _, rfl⟩
    rw [hn, List.cons_append, List.map_cons, skipScalar,
      literalTail?_eq_some_iff.mpr ⟨name, h, hn⟩]
    exact expectAll_append cs r
  | unsigned h =>
    obtain ⟨d, t, rfl, hd⟩ := exists_digit_of_unsigned h
    rw [List.cons_append, List.map_cons, skipScalar, literalTail?_of_isDigit hd]
    dsimp only
    rw [if_neg, if_neg]
    · exact skipNumber_of_unsigned h hr
    · rintro rfl
      exact absurd hd (by decide)
    · rintro rfl
      exact absurd hd (by decide)
  | negative h => exact skipNumber_of_unsigned h hr
  | text h =>
    rw [List.cons_append, List.append_assoc, List.map_cons]
    exact skipText_of_spelled h r

theorem exists_scalar (h : skipScalar (s.map .char) = .ok q) :
    ∃ v r, s = v ++ r ∧ Scalar v ∧ q = r.map .char := by
  cases s with
  | nil => cases h
  | cons c t =>
    rw [List.map_cons, skipScalar] at h
    split at h
    · next cs hl =>
      obtain ⟨name, hm, hn⟩ := literalTail?_eq_some_iff.mp hl
      obtain ⟨r, rfl, rfl⟩ := exists_expectAll h
      exact ⟨name.toList, r, by rw [hn]; rfl, .literal hm, rfl⟩
    split at h
    · next hc =>
      obtain ⟨body, r, rfl, hb, rfl⟩ := exists_spelled_of_skipText h
      refine ⟨'"' :: (body ++ ['"']), r, ?_, .text hb, rfl⟩
      rw [hc, List.cons_append, List.append_assoc]
      rfl
    split at h
    · next hc =>
      obtain ⟨n, r, rfl, hn, rfl⟩ := exists_unsigned h
      exact ⟨'-' :: n, r, by rw [hc]; rfl, .negative hn, rfl⟩
    · obtain ⟨n, r, hs, hn, rfl⟩ := exists_unsigned (List.map_cons ▸ h)
      exact ⟨n, r, hs, .unsigned hn, rfl⟩

/-! ## Steps of the reader -/

/-- Passes over an item of a container. -/
def skipItem (f : Frame) (frames : List Frame) (q : List Piece) : Except Fault (List Piece) :=
  match f.skipLabel q with
  | .ok r => skip .value (f :: frames) r
  | .error e => .error e

section Steps

variable {p : Piece} {r : List Piece}

theorem skip_value_nil (h : skipSpace q = []) : skip .value frames q = .error .ended := by
  rw [skip]
  split
  · rfl
  · next he => rw [h] at he; cases he
  · next he => rw [h] at he; cases he
  · next he => rw [h] at he; cases he

theorem skip_value_container (h : skipSpace q = .char f.opens :: r) :
    skip .value frames q = skip (.first f) frames r := by
  rw [skip]
  cases f <;> split <;> simp_all [Frame.opens]

theorem skip_value_scalar (h : skipSpace q = p :: r) (hne : ∀ f : Frame, p ≠ .char f.opens) :
    skip .value frames q = skipScalar (p :: r) >>= skip .after frames := by
  rw [skip]
  split
  · next he => rw [h] at he; cases he
  · next he => rw [h] at he; cases he; exact absurd rfl (hne .array)
  · next he => rw [h] at he; cases he; exact absurd rfl (hne .object)
  · next he =>
    rw [h] at he
    cases he
    split <;> next hr => rw [hr]; rfl

theorem skip_first_close (h : skipSpace q = .char f.close :: r) :
    skip (.first f) frames q = skip .after frames r := by
  rw [skip]
  split
  · next he => rw [h] at he; cases he
  · next he =>
    rw [h] at he
    cases he
    rw [if_pos rfl]

theorem skip_first_item (h : skipSpace q = p :: r) (hp : p ≠ .char f.close) :
    skip (.first f) frames q = skipItem f frames (p :: r) := by
  rw [skip]
  split
  · next he => rw [h] at he; cases he
  · next he =>
    rw [h] at he
    cases he
    rw [if_neg hp, skipItem]
    split <;> next hr => rw [hr]

theorem skip_after_close (h : skipSpace q = .char f.close :: r) :
    skip .after (f :: frames) q = skip .after frames r := by
  rw [skip]
  split
  · next he => rw [h] at he; cases he
  · next he =>
    rw [h] at he
    cases he
    rw [if_pos rfl]

theorem skip_after_comma (h : skipSpace q = .char ',' :: r) :
    skip .after (f :: frames) q = skipItem f frames r := by
  rw [skip]
  split
  · next he => rw [h] at he; cases he
  · next he =>
    rw [h] at he
    cases he
    rw [if_neg (by cases f <;> decide), if_pos rfl, skipItem]
    split <;> next hr => rw [hr]

theorem skip_after_nil (q : List Piece) : skip .after [] q = .ok q := by
  rw [skip]

theorem skip_value_skipSpace (q : List Piece) :
    skip .value frames (skipSpace q) = skip .value frames q := by
  cases h : skipSpace q with
  | nil => exact (skip_value_nil rfl).trans (skip_value_nil h).symm
  | cons p r =>
    have h' : skipSpace (p :: r) = p :: r := by rw [← h, skipSpace_skipSpace]
    by_cases hp : ∃ f : Frame, p = .char f.opens
    · obtain ⟨f, rfl⟩ := hp
      rw [skip_value_container h', skip_value_container h]
    · have hne := not_exists.mp hp
      rw [skip_value_scalar h' hne, skip_value_scalar h hne]

/-- White space before an item makes no difference. -/
theorem skipItem_skipSpace (f : Frame) (frames : List Frame) (q : List Piece) :
    skipItem f frames (skipSpace q) = skipItem f frames q := by
  cases f with
  | array => exact skip_value_skipSpace q
  | object =>
    rw [skipItem, skipItem, Frame.skipLabel, Frame.skipLabel, skipKey, skipKey, skipSpace_skipSpace]

end Steps

/-! ## What is passed over -/

theorem Frame.opens_not_space (f : Frame) : isSpace (.char f.opens) = false := by
  cases f <;> rfl

theorem Frame.close_not_space (f : Frame) : isSpace (.char f.close) = false := by
  cases f <;> rfl

/-- A value begins with no white space and with no closing bracket. -/
theorem Formed.head {v : List Char} (h : Formed .value v) :
    ∃ c t, v = c :: t ∧ isSpace (.char c) = false ∧ ∀ f : Frame, c ≠ f.close := by
  cases h with
  | scalar h =>
    obtain ⟨c, t, rfl, hc⟩ := h.exists_starts
    exact ⟨c, t, rfl, hc.not_space, fun f => hc.ne (by cases f <;> decide)⟩
  | @container f b _ =>
    exact ⟨f.opens, b, rfl, f.opens_not_space, fun g => by cases f <;> cases g <;> decide⟩

/-- The first character of an item, after white space, does not close the container. -/
theorem Formed.item_head {i : List Char} (h : Formed (.item f) i) :
    ∃ w c t, i = w ++ c :: t ∧ Blank w ∧ isSpace (.char c) = false ∧ c ≠ f.close := by
  cases h with
  | @element w v hw hv =>
    obtain ⟨c, t, rfl, hc, hne⟩ := hv.head
    exact ⟨w, c, t, rfl, hw, hc, hne _⟩
  | member hw => exact ⟨_, '"', _, rfl, hw, rfl, by decide⟩

theorem stops_blank {w r : List Char} (hw : Blank w) (hr : Stops r) : Stops (w ++ r) := by
  cases w with
  | nil => exact hr
  | cons c w =>
    have hc := hw c List.mem_cons_self
    refine stops_cons ?_ ?_ ?_ ?_ _ <;> rcases hc with rfl | rfl | rfl | rfl <;> decide

theorem Formed.stops {x : List Char} (h : Formed (.rest f) x) (r : List Char) : Stops (x ++ r) := by
  cases h with
  | last hw =>
    rw [List.append_assoc]
    refine stops_blank hw (stops_cons ?_ ?_ ?_ ?_ _) <;> cases f <;> decide
  | more hw =>
    rw [List.append_assoc]
    exact stops_blank hw (stops_cons (by decide) (by decide) (by decide) (by decide) _)

/-- How the reader passes over a part, wherever it stands. -/
def Passed : Part → List Char → Prop
  | .value, v => ∀ w frames r, Blank w → Stops r →
    skip .value frames ((w ++ (v ++ r)).map .char) = skip .after frames (r.map .char)
  | .body f, b => ∀ frames r,
    skip (.first f) frames ((b ++ r).map .char) = skip .after frames (r.map .char)
  | .item f, i => ∀ frames r, Stops r →
    skipItem f frames ((i ++ r).map .char) = skip .after (f :: frames) (r.map .char)
  | .rest f, x => ∀ frames r,
    skip .after (f :: frames) ((x ++ r).map .char) = skip .after frames (r.map .char)

theorem skipKey_member {w key w' : List Char} (hw : Blank w) (hk : Spelled key) (hw' : Blank w')
    (r : List Char) : skipKey ((w ++ '"' :: (key ++ '"' :: (w' ++ ':' :: r))).map .char) =
      .ok (r.map .char) := by
  rw [skipKey, skipSpace_blank_cons hw rfl, expect_self]
  simp only [bind, Except.bind]
  rw [skipText_of_spelled hk]
  dsimp only
  rw [skipSpace_blank_cons hw' rfl, expect_self]

/-- Every part is passed over whole. -/
theorem Formed.passed {part : Part} {p : List Char} (h : Formed part p) : Passed part p := by
  induction h with
  | @scalar v h =>
    intro w frames r hw hr
    obtain ⟨c, t, rfl, hc⟩ := h.exists_starts
    rw [List.cons_append, skip_value_scalar (skipSpace_blank_cons hw hc.not_space _)]
    · exact congrArg (· >>= skip .after frames) (skipScalar_of_scalar h hr)
    · rintro f ⟨⟩
      exact absurd hc (by cases f <;> decide)
  | @container f b _ ih =>
    intro w frames r hw _
    rw [List.cons_append, skip_value_container (skipSpace_blank_cons hw f.opens_not_space _)]
    exact ih frames r
  | @empty f w hw =>
    intro frames r
    rw [List.append_assoc]
    exact skip_first_close (skipSpace_blank_cons hw f.close_not_space _)
  | @items f i x hi hx ihi ihx =>
    intro frames r
    obtain ⟨w, c, t, rfl, hw, hs, hc⟩ := hi.item_head
    have hp : skipSpace (((w ++ c :: t) ++ (x ++ r)).map .char) = .char c :: (t ++ (x ++ r)).map .char := by
      rw [List.append_assoc]
      exact skipSpace_blank_cons hw hs _
    rw [List.append_assoc, skip_first_item hp (fun he => hc (Piece.char.inj he)), ← hp,
      skipItem_skipSpace, ihi frames _ (hx.stops r)]
    exact ihx frames r
  | element hw _ ih =>
    intro frames r hr
    rw [List.append_assoc]
    exact ih _ _ r hw hr
  | member hw hk hw' hw'' _ ih =>
    intro frames r hr
    simp only [List.append_assoc, List.cons_append]
    rw [skipItem, Frame.skipLabel, skipKey_member hw hk hw']
    exact ih _ _ r hw'' hr
  | @last f w hw =>
    intro frames r
    rw [List.append_assoc]
    exact skip_after_close (skipSpace_blank_cons hw f.close_not_space _)
  | more hw hi hx ihi ihx =>
    intro frames r
    rw [List.append_assoc, List.cons_append, List.append_assoc,
      skip_after_comma (skipSpace_blank_cons hw rfl _), ihi frames _ (hx.stops r)]
    exact ihx frames r

/-- A value is passed over, with the white space before it. -/
theorem skipValue_of_formed {w v r : List Char} (hw : Blank w) (hv : Formed .value v)
    (hr : Stops r) : skipValue ((w ++ (v ++ r)).map .char) = .ok (r.map .char) :=
  (hv.passed w [] r hw hr).trans (skip_after_nil _)

/-! ## What has been passed over -/

/-- The text that closes these open containers, the innermost first. -/
inductive Closes : List Frame → List Char → Prop
  | nil : Closes [] []
  | cons {f : Frame} {frames : List Frame} {x y : List Char} (hx : Formed (.rest f) x)
    (hy : Closes frames y) : Closes (f :: frames) (x ++ y)

/-- What the reader has passed over when it is done, by what it stood before. -/
def Covers : Phase → List Frame → List Char → Prop
  | .value, frames, p => ∃ w v y, p = w ++ (v ++ y) ∧ Blank w ∧ Formed .value v ∧ Closes frames y
  | .first f, frames, p => ∃ b y, p = b ++ y ∧ Formed (.body f) b ∧ Closes frames y
  | .after, frames, p => Closes frames p

theorem blank_append {w w' : List Char} (hw : Blank w) (hw' : Blank w') : Blank (w ++ w') :=
  List.forall_mem_append.mpr ⟨hw, hw'⟩

/-- A label that has been skipped makes an item of any value. -/
theorem exists_label (h : f.skipLabel (s.map .char) = .ok q) :
    ∃ l r, s = l ++ r ∧ q = r.map .char ∧ ∀ w w' v, Blank w → Blank w' → Formed .value v →
      Formed (.item f) (w ++ (l ++ (w' ++ v))) := by
  cases f with
  | array =>
    cases h
    refine ⟨[], s, rfl, rfl, fun w w' v hw hw' hv => ?_⟩
    rw [List.nil_append, ← List.append_assoc]
    exact .element (blank_append hw hw') hv
  | object =>
    obtain ⟨t, hq, h⟩ := bind_eq_ok.mp h
    obtain ⟨v, a, rfl, hv, hs, -⟩ := exists_blank s
    rw [hs] at hq
    obtain ⟨r, rfl, rfl⟩ := expect_map hq
    obtain ⟨t, hk, h⟩ := bind_eq_ok.mp h
    obtain ⟨key, r, rfl, hkey, rfl⟩ := exists_spelled_of_skipText hk
    obtain ⟨u, a, rfl, hu, hs, -⟩ := exists_blank r
    rw [hs] at h
    obtain ⟨r, rfl, rfl⟩ := expect_map h
    refine ⟨v ++ '"' :: (key ++ '"' :: (u ++ [':'])), r, by simp, rfl, fun w w' x hw hw' hx => ?_⟩
    have := Formed.member (blank_append hw hv) hkey hu hw' hx
    simpa using this

/-- What has been passed over has the form that the grammar asks for. -/
theorem exists_covers {phase : Phase} (h : skip phase frames (s.map .char) = .ok q) :
    ∃ p r, s = p ++ r ∧ Covers phase frames p ∧ q = r.map .char := by
  generalize hp : s.map Piece.char = t at h
  -- One case for each branch of the reader: what it takes is put in front of what the rest covers.
  fun_induction skip phase frames t generalizing s with
  | case1 => cases h
  | case2 frames t r' hs ih =>
    rw [← hp] at hs
    obtain ⟨w, c, r, rfl, hw, hc, rfl⟩ := exists_skipSpace_cons hs
    cases hc
    obtain ⟨_, r, rfl, ⟨b, y, rfl, hb, hy⟩, rfl⟩ := ih rfl h
    exact ⟨_, r, by simp, ⟨w, '[' :: b, y, rfl, hw, .container (f := .array) hb, hy⟩, rfl⟩
  | case3 frames t r' hs ih =>
    rw [← hp] at hs
    obtain ⟨w, c, r, rfl, hw, hc, rfl⟩ := exists_skipSpace_cons hs
    cases hc
    obtain ⟨_, r, rfl, ⟨b, y, rfl, hb, hy⟩, rfl⟩ := ih rfl h
    exact ⟨_, r, by simp, ⟨w, '\x7b' :: b, y, rfl, hw, .container (f := .object) hb, hy⟩, rfl⟩
  | case4 frames t p u _ _ hs r' hr ih =>
    rw [← hp] at hs
    obtain ⟨w, c, r, rfl, hw, rfl, rfl⟩ := exists_skipSpace_cons hs
    obtain ⟨v, r, hvr, hv, rfl⟩ := exists_scalar (s := c :: r) hr
    obtain ⟨y, r, rfl, hy, rfl⟩ := ih rfl h
    refine ⟨w ++ (v ++ y), r, ?_, ⟨w, v, y, rfl, hw, .scalar hv, hy⟩, rfl⟩
    rw [hvr, List.append_assoc, List.append_assoc]
  | case5 => cases h
  | case6 => cases h
  | case7 frames t f p hs ih =>
    rw [← hp] at hs
    obtain ⟨w, c, r, rfl, hw, hc, rfl⟩ := exists_skipSpace_cons hs
    cases hc
    obtain ⟨y, r, rfl, hy, rfl⟩ := ih rfl h
    refine ⟨w ++ f.close :: y, r, by simp, ⟨w ++ [f.close], y, by simp, .empty hw, hy⟩, rfl⟩
  | case8 frames t f p u hs _ r' hr ih =>
    rw [← hp] at hs
    obtain ⟨w, c, r, rfl, hw, rfl, rfl⟩ := exists_skipSpace_cons hs
    obtain ⟨l, r, hlr, rfl, hl⟩ := exists_label (s := c :: r) hr
    obtain ⟨_, r, rfl, ⟨w', v, y, rfl, hw', hv, hy⟩, rfl⟩ := ih rfl h
    cases hy with
    | @cons _ _ x y hx hy =>
    refine ⟨w ++ (l ++ (w' ++ (v ++ (x ++ y)))), r, ?_, ⟨(w ++ (l ++ (w' ++ v))) ++ x, y, ?_,
      .items (hl w w' v hw hw' hv) hx, hy⟩, rfl⟩
    · rw [hlr]
      simp only [List.append_assoc]
    · simp only [List.append_assoc]
  | case9 => cases h
  | case10 =>
    cases h
    exact ⟨[], s, rfl, .nil, hp.symm⟩
  | case11 => cases h
  | case12 t f fs p hs ih =>
    rw [← hp] at hs
    obtain ⟨w, c, r, rfl, hw, hc, rfl⟩ := exists_skipSpace_cons hs
    cases hc
    obtain ⟨y, r, rfl, hy, rfl⟩ := ih rfl h
    exact ⟨(w ++ [f.close]) ++ y, r, by simp, .cons (.last hw) hy, rfl⟩
  | case13 t f fs u r' hr hs _ ih =>
    rw [← hp] at hs
    obtain ⟨w, c, r, rfl, hw, hc, rfl⟩ := exists_skipSpace_cons hs
    cases hc
    obtain ⟨l, r, rfl, rfl, hl⟩ := exists_label hr
    obtain ⟨_, r, rfl, ⟨w', v, y, rfl, hw', hv, hy⟩, rfl⟩ := ih rfl h
    cases hy with
    | @cons _ _ x y hx hy =>
    refine ⟨(w ++ ',' :: ((l ++ (w' ++ v)) ++ x)) ++ y, r, by simp, .cons (.more hw ?_ hx) hy, rfl⟩
    exact hl [] w' v blank_nil hw' hv
  | case14 => cases h
  | case15 => cases h

/-- What has been passed over is a value, with the white space before it. -/
theorem exists_formed_of_skipValue (h : skipValue (s.map .char) = .ok q) :
    ∃ w v r, s = w ++ (v ++ r) ∧ Blank w ∧ Formed .value v ∧ q = r.map .char := by
  obtain ⟨_, r, rfl, ⟨w, v, y, rfl, hw, hv, hy⟩, rfl⟩ := exists_covers h
  cases hy
  exact ⟨w, v, r, by simp, hw, hv, rfl⟩

end Garage.Json

import Garage.Json.Number

/-!
Skipping a JSON value: only its form is judged, and it may be nested to any depth. The containers that
are still open are kept in a list, the innermost one first.
-/

namespace Garage.Json

open Garage.Text (Piece)

/-- The white space of JSON. -/
def isSpace : Piece → Bool
  | .char c => c == ' ' || c == '\n' || c == '\t' || c == '\r'
  | _ => false

/-- Drops white space in front. -/
def skipSpace (s : List Piece) : List Piece :=
  s.dropWhile isSpace

theorem skipSpace_le (s : List Piece) : (skipSpace s).length ≤ s.length :=
  (List.dropWhile_sublist _).length_le

/-- The characters `cs` must come next. -/
def expectAll (cs : List Char) (s : List Piece) : Except Fault (List Piece) :=
  cs.foldlM (fun s c => expect c s) s

theorem expectAll_le {cs : List Char} {s r : List Piece} (h : expectAll cs s = .ok r) :
    r.length ≤ s.length := by
  induction cs generalizing s with
  | nil => cases h; exact Nat.le_refl _
  | cons c cs ih =>
    simp only [expectAll, List.foldlM_cons] at h
    cases h1 : expect c s with
    | error e => simp [h1, bind, Except.bind] at h
    | ok t =>
      have := expect_shorter h1
      have := ih (s := t) (by simpa [h1, bind, Except.bind, expectAll] using h)
      omega

/-- What follows the first letter of a literal name. -/
def literalTail? (c : Char) : Option (List Char) :=
  if c = 'n' then some ['u', 'l', 'l']
  else if c = 't' then some ['r', 'u', 'e']
  else if c = 'f' then some ['a', 'l', 's', 'e']
  else none

/-- Skips a number, whose sign has been read. -/
def skipNumber (s : List Piece) : Except Fault (List Piece) :=
  match scanNumber false s with
  | .ok (_, r) => .ok r
  | .error _ => .error .malformed

theorem skipNumber_shorter {s r : List Piece} (h : skipNumber s = .ok r) :
    r.length < s.length := by
  unfold skipNumber at h
  split at h
  · next hs => cases h; exact scanNumber_shorter hs
  · cases h

/-- Skips a value that is no container. -/
def skipScalar : List Piece → Except Fault (List Piece)
  | [] => .error .ended
  | .char c :: r =>
    match literalTail? c with
    | some cs => expectAll cs r
    | none =>
      if c = '"' then skipText r
      else if c = '-' then skipNumber r
      else skipNumber (.char c :: r)
  | _ :: _ => .error .malformed

theorem skipScalar_shorter {s r : List Piece} (h : skipScalar s = .ok r) :
    r.length < s.length := by
  unfold skipScalar at h
  split at h
  · cases h
  · split at h
    · have := expectAll_le h; simp only [List.length_cons]; omega
    · split at h
      · have := skipText_shorter h; simp only [List.length_cons]; omega
      · split at h
        · have := skipNumber_shorter h; simp only [List.length_cons]; omega
        · exact skipNumber_shorter h
  · cases h

/-- A container that is still open. -/
inductive Frame where
  | array
  | object
  deriving DecidableEq, Repr

/-- The character that closes a container. -/
def Frame.close : Frame → Char
  | array => ']'
  | object => '\x7d'

/-- Skips the key of a member and its colon. -/
def skipKey (s : List Piece) : Except Fault (List Piece) := do
  let r ← expect '"' (skipSpace s)
  let r ← skipText r
  expect ':' (skipSpace r)

/-- Skips what stands before the value of an item: nothing in an array, the key in an object. -/
def Frame.skipLabel : Frame → List Piece → Except Fault (List Piece)
  | array, s => .ok s
  | object, s => skipKey s

theorem Frame.skipLabel_le {f : Frame} {s r : List Piece} (h : f.skipLabel s = .ok r) :
    r.length ≤ s.length := by
  cases f with
  | array => cases h; exact Nat.le_refl _
  | object =>
    simp only [skipLabel, skipKey] at h
    cases h1 : expect '"' (skipSpace s) with
    | error e => simp [h1, bind, Except.bind] at h
    | ok r1 =>
      cases h2 : skipText r1 with
      | error e => simp [h1, h2, bind, Except.bind] at h
      | ok r2 =>
        have h3 : expect ':' (skipSpace r2) = .ok r := by
          simpa [h1, h2, bind, Except.bind] using h
        have := skipSpace_le s
        have := expect_shorter h1
        have := skipText_shorter h2
        have := skipSpace_le r2
        have := expect_shorter h3
        omega

/-- What a reader that is skipping a value stands before. -/
inductive Phase where
  /-- A value. -/
  | value
  /-- The first item of a container, or its end. -/
  | first (f : Frame)
  /-- What follows a complete value. -/
  | after
  deriving DecidableEq, Repr

/-- The first item's own step takes nothing, so it counts for the measure. -/
def Phase.weight : Phase → Nat
  | first _ => 1
  | _ => 0

/-- Skips the rest of a value inside the open containers `frames`. -/
def skip (phase : Phase) (frames : List Frame) (s : List Piece) : Except Fault (List Piece) :=
  match phase with
  | .value =>
    match _hs : skipSpace s with
    | [] => .error .ended
    | .char '[' :: r => skip (.first .array) frames r
    | .char '\x7b' :: r => skip (.first .object) frames r
    | p :: t =>
      match _hr : skipScalar (p :: t) with
      | .ok r => skip .after frames r
      | .error e => .error e
  | .first f =>
    match _hs : skipSpace s with
    | [] => .error .ended
    | p :: r =>
      if p = .char f.close then skip .after frames r
      else match _hr : f.skipLabel (p :: r) with
        | .ok r => skip .value (f :: frames) r
        | .error e => .error e
  | .after =>
    match frames with
    | [] => .ok s
    | f :: fs =>
      match _hs : skipSpace s with
      | [] => .error .ended
      | p :: r =>
        if p = .char f.close then skip .after fs r
        else if p = .char ',' then
          match _hr : f.skipLabel r with
          | .ok r => skip .value (f :: fs) r
          | .error e => .error e
        else .error .malformed
termination_by (s.length, phase.weight)
decreasing_by
  all_goals
    have hs := skipSpace_le s
    simp only [_hs, List.length_cons] at hs
  · exact Prod.Lex.left _ _ (by omega)
  · exact Prod.Lex.left _ _ (by omega)
  · have := skipScalar_shorter _hr
    simp only [List.length_cons] at this
    exact Prod.Lex.left _ _ (by omega)
  · exact Prod.Lex.left _ _ (by omega)
  · have := Frame.skipLabel_le _hr
    simp only [List.length_cons] at this
    simp only [Prod.lex_def, Phase.weight]
    omega
  · exact Prod.Lex.left _ _ (by omega)
  · have := Frame.skipLabel_le _hr
    exact Prod.Lex.left _ _ (by omega)

/-- Skips one value. -/
def skipValue (s : List Piece) : Except Fault (List Piece) :=
  skip .value [] s

theorem skip_le {phase : Phase} {frames : List Frame} {s r : List Piece}
    (h : skip phase frames s = .ok r) : r.length ≤ s.length := by
  fun_induction skip phase frames s with
  | case1 => cases h
  | case2 frames s r' hs ih =>
    have := ih h; have := skipSpace_le s; simp only [hs, List.length_cons] at this; omega
  | case3 frames s r' hs ih =>
    have := ih h; have := skipSpace_le s; simp only [hs, List.length_cons] at this; omega
  | case4 frames s p t hs _ _ r' hr ih =>
    have := ih h; have := skipSpace_le s; have := skipScalar_shorter hr
    simp_all only [List.length_cons]; omega
  | case5 => cases h
  | case6 => cases h
  | case7 frames s f p hs ih =>
    have := ih h; have := skipSpace_le s; simp only [hs, List.length_cons] at this; omega
  | case8 frames s f p t hs _ r' hr ih =>
    have := ih h; have := skipSpace_le s; have := Frame.skipLabel_le hr
    simp_all only [List.length_cons]; omega
  | case9 => cases h
  | case10 => cases h; exact Nat.le_refl _
  | case11 => cases h
  | case12 s f fs p hs ih =>
    have := ih h; have := skipSpace_le s; simp only [hs, List.length_cons] at this; omega
  | case13 s f fs t r' hr hs _ ih =>
    have := ih h; have := skipSpace_le s; have := Frame.skipLabel_le hr
    simp_all only [List.length_cons]; omega
  | case14 => cases h
  | case15 => cases h

end Garage.Json

import Garage.Text.Digit
import Garage.Text.Utf8

/-!
JSON texts between quotes: writing one, and scanning one up to its closing quote.

A text that is kept must stand for Unicode text: its bytes are UTF-8 and its surrogate escapes come in
pairs. A text that is skipped need only have the right form. The two differ in how they read an escape,
and share one scanner.
-/

namespace Garage.Json

open Garage.Text (Piece)

inductive Fault where
  /-- The input ended before the value did. -/
  | ended
  | malformed
  deriving DecidableEq, Repr

/-! ## Writing -/

/-- The digit `n` of a hexadecimal number, in lower case. -/
def hexDigit (n : Nat) : Char :=
  Nat.digitChar n

/-- One character between the quotes. -/
def writeChar (c : Char) : List Char :=
  if c = '"' then ['\\', '"']
  else if c = '\\' then ['\\', '\\']
  else if c = '\x08' then ['\\', 'b']
  else if c = '\x0c' then ['\\', 'f']
  else if c = '\n' then ['\\', 'n']
  else if c = '\r' then ['\\', 'r']
  else if c = '\t' then ['\\', 't']
  else if c < ' ' then ['\\', 'u', '0', '0', hexDigit (c.toNat / 16), hexDigit (c.toNat % 16)]
  else [c]

/-- A text between quotes: the quote, the backslash and the characters below the space are escaped. -/
def writeText (cs : List Char) : List Char :=
  '"' :: cs.flatMap writeChar ++ ['"']

/-! ## Scanning -/

/-- Four hexadecimal digits. They must all be there: fewer than four bytes is an early end, even if
one of these is no digit. -/
def hex4 (s : List Piece) : Except Fault (Nat × List Piece) :=
  if (s.take 4).foldl (fun n p => n + p.width) 0 < 4 then .error .ended
  else match s with
    | .char a :: .char b :: .char c :: .char d :: r =>
      match Text.hex? a, Text.hex? b, Text.hex? c, Text.hex? d with
      | some a, some b, some c, some d => .ok (((a * 16 + b) * 16 + c) * 16 + d, r)
      | _, _, _, _ => .error .malformed
    | _ => .error .malformed

theorem hex4_shorter {s r : List Piece} {n : Nat} (h : hex4 s = .ok (n, r)) :
    r.length < s.length := by
  unfold hex4 at h
  split at h
  · cases h
  · split at h
    · split at h
      · cases h; simp only [List.length_cons]; omega
      · cases h
    · cases h

/-- The piece `c` must come next. -/
def expect (c : Char) : List Piece → Except Fault (List Piece)
  | [] => .error .ended
  | p :: r => if p = .char c then .ok r else .error .malformed

theorem expect_shorter {c : Char} {s r : List Piece} (h : expect c s = .ok r) :
    r.length < s.length := by
  cases s with
  | nil => cases h
  | cons p s =>
    simp only [expect] at h
    split at h
    · cases h; simp
    · cases h

/-- A code unit that opens a surrogate pair. -/
def isLeading (n : Nat) : Bool :=
  0xd800 ≤ n && n ≤ 0xdbff

/-- A code unit that closes a surrogate pair. -/
def isTrailing (n : Nat) : Bool :=
  0xdc00 ≤ n && n ≤ 0xdfff

/-- The character that a leading and a trailing code unit stand for. -/
def joinSurrogates (hi lo : Nat) : Char :=
  Char.ofNat (0x10000 + (hi - 0xd800) * 0x400 + (lo - 0xdc00))

/-- What follows `\u`: a code unit, or two of them as a surrogate pair. -/
def unicodeEscape (s : List Piece) : Except Fault (Char × List Piece) := do
  let (n, r) ← hex4 s
  if isTrailing n then .error .malformed
  else if isLeading n then
    let r ← expect '\\' r
    let r ← expect 'u' r
    let (m, r) ← hex4 r
    if isTrailing m then .ok (joinSurrogates n m, r) else .error .malformed
  else .ok (Char.ofNat n, r)

theorem unicodeEscape_shorter {s r : List Piece} {c : Char} (h : unicodeEscape s = .ok (c, r)) :
    r.length < s.length := by
  unfold unicodeEscape at h
  cases h1 : hex4 s with
  | error e => simp [h1, bind, Except.bind] at h
  | ok p =>
    obtain ⟨n, r1⟩ := p
    have l1 := hex4_shorter h1
    simp only [h1, bind, Except.bind] at h
    split at h
    · cases h
    split at h
    · cases h2 : expect '\\' r1 with
      | error e => simp [h2] at h
      | ok r2 =>
        have l2 := expect_shorter h2
        simp only [h2] at h
        cases h3 : expect 'u' r2 with
        | error e => simp [h3] at h
        | ok r3 =>
          have l3 := expect_shorter h3
          simp only [h3] at h
          cases h4 : hex4 r3 with
          | error e => simp [h4] at h
          | ok q =>
            obtain ⟨m, r4⟩ := q
            have l4 := hex4_shorter h4
            simp only [h4] at h
            split at h
            · simp only [Except.ok.injEq, Prod.mk.injEq] at h
              have := h.2; subst this; omega
            · cases h
    · simp only [Except.ok.injEq, Prod.mk.injEq] at h
      exact h.2 ▸ l1

/-- The character that a backslash and `c` stand for. -/
def shortEscape? (c : Char) : Option Char :=
  if c = '"' ∨ c = '\\' ∨ c = '/' then some c
  else if c = 'b' then some '\x08'
  else if c = 'f' then some '\x0c'
  else if c = 'n' then some '\n'
  else if c = 'r' then some '\r'
  else if c = 't' then some '\t'
  else none

/-- What a backslash stands before: a short escape, or `u` and what `unicode` reads. -/
def escapeWith (unicode : List Piece → Except Fault (Char × List Piece)) :
    List Piece → Except Fault (Char × List Piece)
  | [] => .error .ended
  | .char c :: r =>
    if c = 'u' then unicode r
    else match shortEscape? c with
      | some d => .ok (d, r)
      | none => .error .malformed
  | _ :: _ => .error .malformed

/-- A way to read an escape: it leaves less than it was given. -/
structure EscapeReader where
  read : List Piece → Except Fault (Char × List Piece)
  shorter : ∀ {s r c}, read s = .ok (c, r) → r.length < s.length

theorem escapeWith_shorter {unicode : List Piece → Except Fault (Char × List Piece)}
    (hu : ∀ {s r c}, unicode s = .ok (c, r) → r.length < s.length) {s r : List Piece} {c : Char}
    (h : escapeWith unicode s = .ok (c, r)) : r.length < s.length := by
  unfold escapeWith at h
  split at h
  · cases h
  · split at h
    · have := hu h; simp only [List.length_cons]; omega
    · split at h
      · simp only [Except.ok.injEq, Prod.mk.injEq] at h
        simp [← h.2]
      · cases h
  · cases h

/-- Escapes of a text that is kept. -/
def EscapeReader.kept : EscapeReader :=
  ⟨escapeWith unicodeEscape, escapeWith_shorter unicodeEscape_shorter⟩

/-- Escapes of a text that is skipped: any code unit will do, and what it stands for is not asked. -/
def EscapeReader.skipped : EscapeReader :=
  ⟨escapeWith fun s => (hex4 s).map fun p => ('\ufffd', p.2), escapeWith_shorter <| by
    intro s r c h
    cases h1 : hex4 s with
    | error e => simp [h1, Except.map] at h
    | ok p =>
      simp only [h1, Except.map, Except.ok.injEq, Prod.mk.injEq] at h
      have := hex4_shorter h1
      simp_all⟩

/-- A text up to its closing quote, with what comes after it. -/
structure Scanned where
  /-- The characters that it stands for, the last one first. -/
  reversed : List Char
  /-- Whether all its bytes were UTF-8. -/
  sound : Bool
  rest : List Piece

/-- Scans up to the closing quote. `acc` holds the characters so far, the last one first, and `sound`
tells whether all bytes so far were UTF-8. -/
def scanText (escape : EscapeReader) (acc : List Char) (sound : Bool) (s : List Piece) :
    Except Fault Scanned :=
  match s with
  | [] => .error .ended
  | .char c :: r =>
    if c = '"' then .ok ⟨acc, sound, r⟩
    else if c = '\\' then
      match h : escape.read r with
      | .ok (d, r') =>
        have := escape.shorter h
        scanText escape (d :: acc) sound r'
      | .error e => .error e
    else if c < ' ' then .error .malformed
    else scanText escape (c :: acc) sound r
  | _ :: r => scanText escape acc false r
termination_by s.length

theorem scanText_shorter {escape : EscapeReader} {acc : List Char} {sound : Bool} {s : List Piece}
    {t : Scanned} (h : scanText escape acc sound s = .ok t) : t.rest.length < s.length := by
  fun_induction scanText escape acc sound s with
  | case1 => cases h
  | case2 => cases h; simp
  | case3 acc sound r d r' hr hl _ ih => have := ih h; simp only [List.length_cons]; omega
  | case4 => cases h
  | case5 => cases h
  | case6 acc sound c r _ _ _ ih => have := ih h; simp only [List.length_cons]; omega
  | case7 acc sound p r _ ih => have := ih h; simp only [List.length_cons]; omega

/-- Reads a text whose opening quote has been read. Bytes that are not UTF-8 are refused when the
closing quote is reached. -/
def readText (s : List Piece) : Except Fault (List Char × List Piece) :=
  match scanText .kept [] true s with
  | .ok t => if t.sound then .ok (t.reversed.reverse, t.rest) else .error .malformed
  | .error e => .error e

/-- Skips a text whose opening quote has been read. -/
def skipText (s : List Piece) : Except Fault (List Piece) :=
  (scanText .skipped [] true s).map Scanned.rest

theorem readText_shorter {s r : List Piece} {cs : List Char} (h : readText s = .ok (cs, r)) :
    r.length < s.length := by
  unfold readText at h
  split at h
  · next t ht =>
    split at h
    · cases h; exact scanText_shorter ht
    · cases h
  · cases h

theorem skipText_shorter {s r : List Piece} (h : skipText s = .ok r) : r.length < s.length := by
  unfold skipText at h
  cases ht : scanText .skipped [] true s with
  | error e => simp [ht, Except.map] at h
  | ok t =>
    simp only [ht, Except.map, Except.ok.injEq] at h
    exact h ▸ scanText_shorter ht

end Garage.Json

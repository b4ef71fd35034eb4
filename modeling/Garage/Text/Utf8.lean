/-!
Bytes as text. A byte string is a row of pieces: characters in UTF-8, and the ill-formed stretches
between them, each as long as a prefix of a well-formed sequence can be (one byte at least).
-/

namespace Garage.Text

/-- A piece of a byte string read as UTF-8. -/
inductive Piece where
  | char (c : Char)
  /-- Bytes that no continuation makes a character. -/
  | broken (width : Nat)
  /-- The start of a character, cut off by the end of the bytes. -/
  | cut (width : Nat)
  deriving DecidableEq, Repr

namespace Piece

def width : Piece → Nat
  | char c => c.utf8Size
  | broken w => w
  | cut w => w

def char? : Piece → Option Char
  | char c => some c
  | _ => none

/-- The character shown for a piece: U+FFFD stands for ill-formed bytes. -/
def shown : Piece → Char
  | char c => c
  | _ => '\ufffd'

end Piece

namespace Utf8

/-- A byte that continues a character. -/
def continues (b : UInt8) : Bool :=
  0x80 ≤ b.toNat && b.toNat ≤ 0xbf

/-- Whether `b` may follow the leading byte `a`: beside being a continuation it must not make the
sequence overlong, a surrogate, or larger than U+10FFFF. -/
def follows (a b : UInt8) : Bool :=
  continues b &&
    (if a.toNat = 0xe0 then 0xa0 ≤ b.toNat else if a.toNat = 0xed then b.toNat ≤ 0x9f
      else if a.toNat = 0xf0 then 0x90 ≤ b.toNat else if a.toNat = 0xf4 then b.toNat ≤ 0x8f else true)

/-- The six bits that a continuation byte carries. -/
def payload (b : UInt8) : Nat :=
  b.toNat - 0x80

/-- Splits a byte string into its pieces. -/
def pieces : List UInt8 → List Piece
  | [] => []
  | a :: s =>
    if a.toNat < 0x80 then .char (Char.ofNat a.toNat) :: pieces s
    else if a.toNat < 0xc2 || 0xf4 < a.toNat then .broken 1 :: pieces s
    else match s with
      | [] => [.cut 1]
      | b :: t =>
        if !follows a b then .broken 1 :: pieces (b :: t)
        else if a.toNat < 0xe0 then
          .char (Char.ofNat ((a.toNat - 0xc0) * 0x40 + payload b)) :: pieces t
        else match t with
          | [] => [.cut 2]
          | c :: u =>
            if !continues c then .broken 2 :: pieces (c :: u)
            else if a.toNat < 0xf0 then
              .char (Char.ofNat ((a.toNat - 0xe0) * 0x1000 + payload b * 0x40 + payload c)) :: pieces u
            else match u with
              | [] => [.cut 3]
              | d :: v =>
                if !continues d then .broken 3 :: pieces (d :: v)
                else
                  .char (Char.ofNat ((a.toNat - 0xf0) * 0x40000 + payload b * 0x1000
                    + payload c * 0x40 + payload d)) :: pieces v

def encode (cs : List Char) : List UInt8 :=
  cs.flatMap String.utf8EncodeChar

/-- The text that the bytes are, if all of them are well-formed. -/
def decode? (bytes : List UInt8) : Option (List Char) :=
  (pieces bytes).mapM Piece.char?

/-- The text of the bytes with one U+FFFD for each ill-formed stretch. -/
def decodeLossy (bytes : List UInt8) : List Char :=
  (pieces bytes).map Piece.shown

/-- Where and how a byte string first fails to be UTF-8. -/
structure Flaw where
  index : Nat
  /-- The length of the ill-formed stretch; `none` if the end of the bytes cut a character. -/
  width : Option Nat
  deriving DecidableEq, Repr

/-- The first flaw of a row of pieces that begins after `index` bytes. -/
def firstFlaw? (index : Nat) : List Piece → Option Flaw
  | [] => none
  | .char c :: r => firstFlaw? (index + c.utf8Size) r
  | .broken w :: _ => some ⟨index, some w⟩
  | .cut _ :: _ => some ⟨index, none⟩

def Flaw.message (f : Flaw) : String :=
  match f.width with
  | some w => s!"invalid utf-8 sequence of {w} bytes from index {f.index}"
  | none => s!"incomplete utf-8 byte sequence from index {f.index}"

@[simp] theorem pieces_nil : pieces [] = [] := by
  simp [pieces]

theorem toNat_ofNat_of_lt {n : Nat} (h : n < 256) : (UInt8.ofNat n).toNat = n := by
  simp [UInt8.toNat_ofNat', Nat.mod_eq_of_lt h]

theorem continues_ofNat (n : Nat) : continues (UInt8.ofNat (n % 64 + 128)) = true := by
  simp only [continues, toNat_ofNat_of_lt (n := n % 64 + 128) (by omega), Bool.and_eq_true,
    decide_eq_true_eq]
  omega

theorem payload_ofNat (n : Nat) : payload (UInt8.ofNat (n % 64 + 128)) = n % 64 := by
  have h := toNat_ofNat_of_lt (n := n % 64 + 128) (by omega)
  unfold payload
  omega

theorem pieces_two {a b : UInt8} (s : List UInt8) (ha : 0xc2 ≤ a.toNat) (ha' : a.toNat < 0xe0)
    (hb : follows a b = true) :
    pieces (a :: b :: s) =
      .char (Char.ofNat ((a.toNat - 0xc0) * 0x40 + payload b)) :: pieces s := by
  rw [pieces.eq_def]
  simp only [hb]
  rw [if_neg (by omega), if_neg (by simp; omega)]
  simp only [Bool.not_true, Bool.false_eq_true, if_false]
  rw [if_pos (by omega)]

theorem pieces_three {a b c : UInt8} (s : List UInt8) (ha : 0xe0 ≤ a.toNat) (ha' : a.toNat < 0xf0)
    (hb : follows a b = true) (hc : continues c = true) :
    pieces (a :: b :: c :: s) =
      .char (Char.ofNat ((a.toNat - 0xe0) * 0x1000 + payload b * 0x40 + payload c)) :: pieces s := by
  rw [pieces.eq_def]
  simp only [hb, hc]
  rw [if_neg (by omega), if_neg (by simp; omega)]
  simp only [Bool.not_true, Bool.false_eq_true, if_false]
  rw [if_neg (by omega), if_pos (by omega)]

theorem pieces_four {a b c d : UInt8} (s : List UInt8) (ha : 0xf0 ≤ a.toNat) (ha' : a.toNat ≤ 0xf4)
    (hb : follows a b = true) (hc : continues c = true) (hd : continues d = true) :
    pieces (a :: b :: c :: d :: s) =
      .char (Char.ofNat ((a.toNat - 0xf0) * 0x40000 + payload b * 0x1000 + payload c * 0x40
        + payload d)) :: pieces s := by
  rw [pieces.eq_def]
  simp only [hb, hc, hd]
  rw [if_neg (by omega), if_neg (by simp; omega)]
  simp only [Bool.not_true, Bool.false_eq_true, if_false]
  rw [if_neg (by omega), if_neg (by omega)]

theorem pieces_encodeChar (c : Char) (s : List UInt8) :
    pieces (String.utf8EncodeChar c ++ s) = .char c :: pieces s := by
  have hc : c.toNat < 0xd800 ∨ 0xdfff < c.toNat ∧ c.toNat < 0x110000 := c.valid
  have hv : c.val.toNat = c.toNat := rfl
  unfold String.utf8EncodeChar
  simp only [hv]
  split
  · have hn := toNat_ofNat_of_lt (n := c.toNat) (by omega)
    rw [List.cons_append, List.nil_append, pieces.eq_def]
    simp only [hn, Char.ofNat_toNat]
    rw [if_pos (by omega)]
  split
  · have hn := toNat_ofNat_of_lt (n := c.toNat / 64 % 32 + 192) (by omega)
    rw [List.cons_append, List.cons_append, List.nil_append,
      pieces_two s (by omega) (by omega) ?_, hn, payload_ofNat]
    · congr 2
      rw [← Char.ofNat_toNat c]
      congr 1
      simp only [Char.ofNat_toNat]
      omega
    · simp only [follows, continues_ofNat, Bool.true_and, hn]
      grind
  split
  · have hn := toNat_ofNat_of_lt (n := c.toNat / 4096 % 16 + 224) (by omega)
    have hb := toNat_ofNat_of_lt (n := c.toNat / 64 % 64 + 128) (by omega)
    rw [List.cons_append, List.cons_append, List.cons_append, List.nil_append,
      pieces_three s (by omega) (by omega) ?_ (continues_ofNat _), hn, payload_ofNat, payload_ofNat]
    · congr 2
      rw [← Char.ofNat_toNat c]
      congr 1
      simp only [Char.ofNat_toNat]
      omega
    · simp only [follows, continues_ofNat, Bool.true_and, hn, hb]
      grind
  · have hn := toNat_ofNat_of_lt (n := c.toNat / 262144 % 8 + 240) (by omega)
    have hb := toNat_ofNat_of_lt (n := c.toNat / 4096 % 64 + 128) (by omega)
    rw [List.cons_append, List.cons_append, List.cons_append, List.cons_append, List.nil_append,
      pieces_four s (by omega) (by omega) ?_ (continues_ofNat _) (continues_ofNat _), hn,
      payload_ofNat, payload_ofNat, payload_ofNat]
    · congr 2
      rw [← Char.ofNat_toNat c]
      congr 1
      simp only [Char.ofNat_toNat]
      omega
    · simp only [follows, continues_ofNat, Bool.true_and, hn, hb]
      grind

/-- The bytes of a text are read as its characters. -/
theorem pieces_encode (cs : List Char) : pieces (encode cs) = cs.map .char := by
  induction cs with
  | nil => rfl
  | cons c cs ih =>
    rw [encode, List.flatMap_cons, pieces_encodeChar, List.map_cons]
    exact congrArg _ ih

/-- Decoding undoes encoding. -/
theorem decode?_encode (cs : List Char) : decode? (encode cs) = some cs := by
  rw [decode?, pieces_encode]
  induction cs with
  | nil => rfl
  | cons c cs ih => simp [Piece.char?, ih]

end Utf8

end Garage.Text

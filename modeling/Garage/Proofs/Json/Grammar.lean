import Garage.Json.Skip

/-!
# The grammar of JSON

Which texts are JSON, said without a reader. A text between quotes may be asked for its form only
(`Spelled`), or for the characters that it stands for (`Denotes`): the two differ in what a code unit may
be. A value is judged by its form alone, to any depth. It is one of the parts into which `Formed` takes
JSON apart, and a container is its bracket and a body that ends with the other bracket.
-/

namespace Garage.Json

/-- White space, or nothing. -/
def Blank (cs : List Char) : Prop :=
  ∀ c ∈ cs, c = ' ' ∨ c = '\n' ∨ c = '\t' ∨ c = '\r'

/-! ## Texts -/

/-- Characters that stand for themselves: neither a quote nor a backslash nor below the space. -/
structure Plain (c : Char) : Prop where
  ne_quote : c ≠ '"'
  ne_backslash : c ≠ '\\'
  not_lt_space : ¬ c < ' '

/-- The letters of short escapes, each with the character that it stands for. -/
def shortEscapes : List (Char × Char) :=
  [('"', '"'), ('\\', '\\'), ('/', '/'), ('b', '\x08'), ('f', '\x0c'), ('n', '\n'), ('r', '\r'),
    ('t', '\t')]

/-- Four hexadecimal digits and their value. -/
inductive Hex4 : List Char → Nat → Prop
  | digits {a b c d : Char} {w x y z : Nat} (ha : Text.hex? a = some w) (hb : Text.hex? b = some x)
    (hc : Text.hex? c = some y) (hd : Text.hex? d = some z) :
    Hex4 [a, b, c, d] (((w * 16 + x) * 16 + y) * 16 + z)

/-- What follows a backslash, and the character that it stands for. Beyond the first 65536 code points a
character is written by the two code units of its UTF-16 form. -/
inductive Escape : List Char → Char → Prop
  | short {e c : Char} (h : (e, c) ∈ shortEscapes) : Escape [e] c
  | unit {ds : List Char} {c : Char} (h : Hex4 ds c.toNat) : Escape ('u' :: ds) c
  | pair {hi lo : List Char} {c : Char} (hc : 0x10000 ≤ c.toNat)
    (hhi : Hex4 hi (0xd800 + (c.toNat - 0x10000) / 0x400))
    (hlo : Hex4 lo (0xdc00 + (c.toNat - 0x10000) % 0x400)) :
    Escape ('u' :: (hi ++ '\\' :: 'u' :: lo)) c

/-- What stands between quotes, and the characters that it stands for. -/
inductive Denotes : List Char → List Char → Prop
  | nil : Denotes [] []
  | plain {c : Char} {body cs : List Char} (hc : Plain c) (h : Denotes body cs) :
    Denotes (c :: body) (c :: cs)
  | escape {e : List Char} {c : Char} {body cs : List Char} (he : Escape e c) (h : Denotes body cs) :
    Denotes ('\\' :: (e ++ body)) (c :: cs)

/-- What follows a backslash, by its form: any code unit will do. -/
inductive EscapeForm : List Char → Prop
  | short {e c : Char} (h : (e, c) ∈ shortEscapes) : EscapeForm [e]
  | unit {ds : List Char} {n : Nat} (h : Hex4 ds n) : EscapeForm ('u' :: ds)

/-- What may stand between quotes, by its form. -/
inductive Spelled : List Char → Prop
  | nil : Spelled []
  | plain {c : Char} {body : List Char} (hc : Plain c) (h : Spelled body) : Spelled (c :: body)
  | escape {e body : List Char} (he : EscapeForm e) (h : Spelled body) : Spelled ('\\' :: (e ++ body))

/-- A text that stands for something has the form of a text. -/
theorem Denotes.spelled {body cs : List Char} (h : Denotes body cs) : Spelled body := by
  induction h with
  | nil => exact .nil
  | plain hc _ ih => exact .plain hc ih
  | escape he _ ih =>
    cases he with
    | short hm => exact .escape (.short hm) ih
    | unit hu => exact .escape (.unit hu) ih
    | pair _ hhi hlo =>
      have h := Spelled.escape (.unit hhi) (.escape (.unit hlo) ih)
      simpa only [List.cons_append, List.append_assoc] using h

/-! ## Numerals -/

def IsDigit (c : Char) : Prop := '0' ≤ c ∧ c ≤ '9'

instance (c : Char) : Decidable (IsDigit c) :=
  inferInstanceAs (Decidable (_ ∧ _))

/-- One digit or more. -/
structure Digits (ds : List Char) : Prop where
  ne_nil : ds ≠ []
  all : ∀ c ∈ ds, IsDigit c

/-- Digits that start with a zero only if that is all. -/
structure Whole (ds : List Char) : Prop extends Digits ds where
  leading : ds.head? = some '0' → ds = ['0']

inductive Fraction : List Char → Prop
  | absent : Fraction []
  | present {ds : List Char} (h : Digits ds) : Fraction ('.' :: ds)

inductive Exponent : List Char → Prop
  | absent : Exponent []
  | present {e : Char} {sign ds : List Char} (he : e = 'e' ∨ e = 'E')
    (hs : sign = [] ∨ sign = ['+'] ∨ sign = ['-']) (h : Digits ds) : Exponent (e :: (sign ++ ds))

/-- A numeral without a sign. -/
inductive Unsigned : List Char → Prop
  | parts {whole fraction exponent : List Char} (hw : Whole whole) (hf : Fraction fraction)
    (he : Exponent exponent) : Unsigned (whole ++ (fraction ++ exponent))

/-! ## Values -/

/-- A value that is no container. -/
inductive Scalar : List Char → Prop
  | literal {name : String} (h : name ∈ ["null", "true", "false"]) : Scalar name.toList
  | unsigned {n : List Char} (h : Unsigned n) : Scalar n
  | negative {n : List Char} (h : Unsigned n) : Scalar ('-' :: n)
  | text {body : List Char} (h : Spelled body) : Scalar ('"' :: (body ++ ['"']))

def Frame.opens : Frame → Char
  | array => '['
  | object => '\x7b'

/-- The parts of JSON. -/
inductive Part where
  | value
  /-- What follows the opening bracket. -/
  | body (f : Frame)
  /-- An item of a container, with the white space before it. -/
  | item (f : Frame)
  /-- What follows an item, up to the closing bracket. -/
  | rest (f : Frame)

/-- The texts that have the form of this part. -/
inductive Formed : Part → List Char → Prop
  | scalar {v : List Char} (h : Scalar v) : Formed .value v
  | container {f : Frame} {b : List Char} (h : Formed (.body f) b) : Formed .value (f.opens :: b)
  | empty {f : Frame} {w : List Char} (hw : Blank w) : Formed (.body f) (w ++ [f.close])
  | items {f : Frame} {i x : List Char} (hi : Formed (.item f) i) (hx : Formed (.rest f) x) :
    Formed (.body f) (i ++ x)
  | element {w v : List Char} (hw : Blank w) (hv : Formed .value v) : Formed (.item .array) (w ++ v)
  | member {w key w' w'' v : List Char} (hw : Blank w) (hk : Spelled key) (hw' : Blank w')
    (hw'' : Blank w'') (hv : Formed .value v) :
    Formed (.item .object) (w ++ '"' :: (key ++ '"' :: (w' ++ ':' :: (w'' ++ v))))
  | last {f : Frame} {w : List Char} (hw : Blank w) : Formed (.rest f) (w ++ [f.close])
  | more {f : Frame} {w i x : List Char} (hw : Blank w) (hi : Formed (.item f) i)
    (hx : Formed (.rest f) x) : Formed (.rest f) (w ++ ',' :: (i ++ x))

end Garage.Json

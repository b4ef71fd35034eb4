/-!
Request targets. A target is a path with a query, an authority alone, a URI with scheme and authority, or
`*`. Only its path is kept. A fragment is cut off wherever it starts, and what it holds is not looked at.
-/

namespace Garage.Http

/-- Why a text is no request target. -/
inductive UriFault where
  | tooLong
  | empty
  | character
  | authority
  /-- The scheme is longer than 64 characters. -/
  | schemeTooLong
  /-- The parts do not make a target. -/
  | format
  deriving DecidableEq, Repr

def UriFault.message : UriFault → String
  | tooLong => "uri too long"
  | empty => "empty string"
  | character => "invalid uri character"
  | authority => "invalid authority"
  | schemeTooLong => "scheme too long"
  | format => "invalid format"

namespace Uri

/-- The longest target, in bytes. -/
def maxLength : Nat := 65534

/-- ASCII letters and digits. -/
def isAlphanumeric (c : Char) : Bool :=
  ('a' ≤ c && c ≤ 'z') || ('A' ≤ c && c ≤ 'Z') || ('0' ≤ c && c ≤ '9')

/-! ## Path and query -/

/-- A character that stands for itself in a path. -/
def isPathChar (c : Char) : Bool :=
  c == '!' || c == '"' || ('$' ≤ c && c ≤ ';') || c == '=' || ('@' ≤ c && c ≤ '_') ||
    ('a' ≤ c && c ≤ '\x7e') || '\x80' ≤ c

/-- A character that stands for itself in a query. -/
def isQueryChar (c : Char) : Bool :=
  c == '!' || ('$' ≤ c && c ≤ ';') || c == '=' || ('?' ≤ c && c != '\x7f')

/-- Whether a query, up to its fragment, has admissible characters only. -/
def queryAdmissible : List Char → Bool
  | [] => true
  | c :: r => if c = '#' then true else isQueryChar c && queryAdmissible r

/-- The path of a text made of a path, a query and a fragment. -/
def pathOf : List Char → Except UriFault (List Char)
  | [] => .ok []
  | c :: r =>
    if c = '#' then .ok []
    else if c = '?' then if queryAdmissible r then .ok [] else .error .character
    else if isPathChar c then (pathOf r).map (c :: ·)
    else .error .character

/-! ## Authority -/

/-- A character of an authority, or one that ends it. -/
def isAuthorityChar (c : Char) : Bool :=
  isAlphanumeric c || "!#$&'()*+,-./:;=?@[]_~".toList.contains c

/-- What has been met in an authority so far. -/
structure AuthorityScan where
  /-- Colons since the last `@` or bracketed address. -/
  colons : Nat
  opened : Bool
  closed : Bool
  /-- A percent sign since the last `@` or bracketed address. -/
  percent : Bool
  atSign : Bool
  deriving DecidableEq, Repr

namespace AuthorityScan

def start : AuthorityScan := ⟨0, false, false, false, false⟩

def step (a : AuthorityScan) (c : Char) : Except UriFault AuthorityScan :=
  let a := { a with atSign := false }
  if c = ':' then if 8 ≤ a.colons then .error .authority else .ok { a with colons := a.colons + 1 }
  else if c = '[' then
    if a.percent || a.opened then .error .authority else .ok { a with opened := true }
  else if c = ']' then
    if !a.opened || a.closed then .error .authority
    else .ok { a with closed := true, colons := 0, percent := false }
  else if c = '@' then .ok { a with atSign := true, colons := 0, percent := false }
  else if c = '%' then .ok { a with percent := true }
  else if isAuthorityChar c then .ok a
  else .error .character

/-- Brackets are paired, at most one colon stands before a port, a host follows the user, and only the
user has percent signs. -/
def isComplete (a : AuthorityScan) : Bool :=
  a.opened == a.closed && a.colons ≤ 1 && !a.atSign && !a.percent

/-- Takes the authority in front of a text; the rest is returned. -/
def run (a : AuthorityScan) : List Char → Except UriFault (List Char)
  | [] => if a.isComplete then .ok [] else .error .authority
  | c :: r =>
    if c = '/' ∨ c = '?' ∨ c = '#' then if a.isComplete then .ok (c :: r) else .error .authority
    else match a.step c with
      | .ok a => run a r
      | .error e => .error e

end AuthorityScan

/-- Takes the authority in front of a text, which must not be empty; the rest is returned. -/
def authority (cs : List Char) : Except UriFault (List Char) :=
  if cs.isEmpty then .error .empty else AuthorityScan.start.run cs

/-! ## Scheme -/

def isSchemeChar (c : Char) : Bool :=
  isAlphanumeric c || c == '+' || c == '-' || c == '.' || c == '~'

/-- What follows a scheme and `://`; `none` if the text has no scheme. -/
def afterScheme (cs : List Char) : Except UriFault (Option (List Char)) :=
  let name := cs.takeWhile isSchemeChar
  match cs.dropWhile isSchemeChar with
  | ':' :: '/' :: '/' :: r =>
    if cs.length ≤ 3 then .ok none
    else if 64 < name.length then .error .schemeTooLong
    else .ok (some r)
  | _ => .ok none

/-! ## Targets -/

/-- The path of a URI with a scheme: a missing one is `/`. -/
def absolutePath (cs : List Char) : Except UriFault (List Char) := do
  let rest ← authority cs
  if rest.length = cs.length then .error .format
  else
    let path ← pathOf rest
    .ok (if path.isEmpty then ['/'] else path)

/-- The path of a request target. An authority alone has none. -/
def path (target : String) : Except UriFault (List Char) :=
  let cs := target.toList
  if maxLength < target.utf8ByteSize then .error .tooLong
  else match cs with
    | [] => .error .empty
    | ['*'] => .ok ['*']
    | [_] =>
      if cs = ['/'] then .ok cs
      else do
        let rest ← authority cs
        if rest.isEmpty then .ok [] else .error .character
    | c :: _ =>
      if c = '/' then pathOf cs
      else do
        match ← afterScheme cs with
        | some r => absolutePath r
        | none =>
          let rest ← authority cs
          if rest.isEmpty then .ok [] else .error .format

end Uri

end Garage.Http

import Garage.Text.Blank
import Garage.Text.Quoted

/-!
Usernames. A name is normalised by trimming it and lower-casing its ASCII letters; the canonical form
of a name is its normal form, if that has 1 to 32 characters of `[a-z0-9_-]`.
-/

namespace Garage.Username

/-- The longest username, in bytes. -/
def maxLength : Nat := 32

def isAllowed (c : Char) : Bool :=
  ('a' ≤ c && c ≤ 'z') || ('0' ≤ c && c ≤ '9') || c == '-' || c == '_'

/-- Trims a name and lower-cases its ASCII letters. -/
def normalize (name : String) : String :=
  String.ofList ((Text.trim name.toList).map Char.toLower)

/-- Why a name has no canonical form. -/
inductive Fault where
  /-- The normal form is empty or too long. -/
  | length
  /-- The normal form has a character that no canonical username has. -/
  | characters (normal : String)
  deriving DecidableEq, Repr

def Fault.reason : Fault → String
  | length => s!"username must be 1-{maxLength} characters"
  | characters normal => s!"invalid characters in username {Text.quoted normal}"

/-- The canonical form of a name. Its length is judged before its characters. -/
def canonical (name : String) : Except Fault String :=
  let normal := normalize name
  if normal.isEmpty || maxLength < normal.utf8ByteSize then .error .length
  else if normal.toList.all isAllowed then .ok normal
  else .error (.characters normal)

@[simp] theorem toList_normalize (name : String) :
    (normalize name).toList = (Text.trim name.toList).map Char.toLower := by
  simp [normalize]

/-- A canonical form is the normal form of its name. -/
theorem eq_normalize_of_canonical {name u : String} (h : canonical name = .ok u) :
    u = normalize name := by
  simp only [canonical] at h
  split at h
  · cases h
  · split at h
    · exact (Except.ok.inj h).symm
    · cases h

/-- A canonical form has allowed characters only. -/
theorem all_isAllowed_of_canonical {name u : String} (h : canonical name = .ok u) :
    u.toList.all isAllowed = true := by
  have hu := eq_normalize_of_canonical h
  simp only [canonical] at h
  split at h
  · cases h
  · split at h
    · next ha => rw [hu]; exact ha
    · cases h

end Garage.Username

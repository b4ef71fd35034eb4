import Garage.Text.Printable

/-!
Quoted text: the form in which a text is shown inside messages. It stands between double quotes, and
every character in it is visible: what a reader could not see or could mistake is written by an escape.
-/

namespace Garage.Text

/-- One character inside quotes. The characters with a short escape take it; those that show nothing
of their own are written by their code point. -/
def quotedChar (c : Char) : List Char :=
  if c = '"' then ['\\', '"']
  else if c = '\\' then ['\\', '\\']
  else if c = '\n' then ['\\', 'n']
  else if c = '\r' then ['\\', 'r']
  else if c = '\t' then ['\\', 't']
  else if c = '\x00' then ['\\', '0']
  else if isExtending c || !isPrintable c then
    ['\\', 'u', '\x7b'] ++ Nat.toDigits 16 c.toNat ++ ['\x7d']
  else [c]

/-- A text between double quotes, with escapes. -/
def quotedList (cs : List Char) : List Char :=
  '"' :: cs.flatMap quotedChar ++ ['"']

/-- A text between double quotes, with escapes. -/
def quoted (s : String) : String :=
  String.ofList (quotedList s.toList)

@[simp] theorem toList_quoted (s : String) : (quoted s).toList = quotedList s.toList := by
  simp [quoted]

end Garage.Text

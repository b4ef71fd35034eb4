import Garage.Location.Url
import Garage.Store.Database

/-!
Directories, and the databases in them. Names are resolved by their text: an empty element and `.` stay
where they are, `..` goes one up.
-/

namespace Garage.Location

open Garage.Store (Database)

/-- A place in the file tree: the names on the way from its root. -/
abbrev Place := List String

structure FileTree where
  /-- Where names that do not start with a slash begin. -/
  workingDirectory : Place
  directories : List Place
  files : List (Place × Database)
  deriving DecidableEq, Repr

/-- The longest name in a directory, in bytes. -/
def maxName : Nat := 255

/-- The longest path, in bytes. -/
def maxPath : Nat := 512

/-- The length of a place's path, in bytes: each name follows a slash. -/
def pathLength (p : Place) : Nat :=
  p.foldl (fun n name => n + (name.utf8ByteSize + 1)) 0

/-- The place beside another one whose name has more at its end. -/
def beside (p : Place) (suffix : String) : Place :=
  p.dropLast ++ p.getLast?.toList.map (· ++ suffix)

def journal (p : Place) : Place := beside p "-journal"

def writeAhead (p : Place) : Place := beside p "-wal"

def writeAheadIndex (p : Place) : Place := beside p "-shm"

def lockDirectory (p : Place) : Place := beside p ".lock"

/-- A place can be reached: the last name on the way is not too long. -/
def isNameable (p : Place) : Bool :=
  p.getLast?.all fun name => name.utf8ByteSize ≤ maxName

/-- The elements of a name, the slashes apart. -/
def elements (name : String) : List String :=
  (splitAt '/' name.toList).map String.ofList

namespace FileTree

/-- A place and the places above it, the root apart. -/
def above (p : Place) : List Place :=
  (List.range p.length).map fun n => p.take (n + 1)

/-- A tree with a working directory and the directories in it. Nothing can be written to its root. -/
def ofDirectories (workingDirectory : Place) (names : List Place) : FileTree :=
  let all := above workingDirectory ++ names.flatMap fun n => above (workingDirectory ++ n)
  ⟨workingDirectory, all.eraseDups, []⟩

def isDirectory (t : FileTree) (p : Place) : Bool :=
  t.directories.contains p

def file? (t : FileTree) (p : Place) : Option Database :=
  t.files.lookup p

/-- Goes from a place along one element. There is no way below a file, and none to a name or a place that
is too long. -/
def walk (t : FileTree) (p : Place) (element : String) : Option Place :=
  if element = "" ∨ element = "." then some p
  else if element = ".." then some p.dropLast
  else if (t.file? p).isSome ∨ maxName < element.utf8ByteSize then none
  else if maxPath ≤ pathLength (p ++ [element]) then none
  else some (p ++ [element])

/-- The place that a name leads to. -/
def resolve? (t : FileTree) (name : String) : Option Place :=
  let start := if name.toList.head? = some '/' then [] else t.workingDirectory
  (elements name).foldlM t.walk start

/-- There is a directory or a file at this place. -/
def contains (t : FileTree) (p : Place) : Bool :=
  t.isDirectory p || (t.file? p).isSome

/-- Something is at this place; a file in which nothing has been done does not count. -/
def isUsed (t : FileTree) (p : Place) : Bool :=
  t.isDirectory p || (t.file? p).any (· != Database.empty)

/-- Puts a database at a place, instead of the one that is there. -/
def put (t : FileTree) (p : Place) (db : Database) : FileTree :=
  { t with files := (p, db) :: t.files.filter fun f => !(f.1 == p) }

def remove (t : FileTree) (p : Place) : FileTree :=
  { t with files := t.files.filter fun f => !(f.1 == p) }

/-- The names in the working directory, sorted. -/
def names (t : FileTree) : List String :=
  let children := (t.directories ++ t.files.map (·.1)).filter fun p =>
    p != [] && p.dropLast == t.workingDirectory
  (children.filterMap List.getLast?).mergeSort fun a b => a ≤ b

@[simp] theorem file?_put_self (t : FileTree) (p : Place) (db : Database) :
    (t.put p db).file? p = some db := by
  simp [put, file?]

@[simp] theorem file?_remove_self (t : FileTree) (p : Place) : (t.remove p).file? p = none := by
  simp only [remove, file?, List.lookup_eq_none_iff, List.mem_filter, Bool.not_eq_true',
    beq_eq_false_iff_ne, bne_iff_ne]
  exact fun f hf => hf.2.symm

end FileTree

end Garage.Location

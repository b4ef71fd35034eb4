import Garage.Location.FileTree
import Garage.Location.Source

/-!
Opening a database at a path, and bringing it up to date. The first access to a file looks at what stands
beside it: a journal that nobody works on is played back and removed, and a write-ahead log is taken in
and removed with its index. What stands there in a file that holds something else is lost in this way.
-/

namespace Garage.Location

open Garage.Store (Cause Database Error)

def cannotOpen : Cause :=
  .engine 14 "unable to open database file"

/-- What stops a change where there must be none. -/
def isReadOnly : Cause :=
  .engine 8 "attempt to write a readonly database"

/-- What stops a journal that must be played back where nothing may be changed. -/
def cannotPlayBack : Cause :=
  .engine 776 "attempt to write a readonly database"

def isLocked : Cause :=
  .engine 5 "database is locked"

/-- What stops a directory that is read as a file. -/
def cannotRead : Cause :=
  .engine 266 "disk I/O error"

def cannotRemove : Cause :=
  .engine 2570 "disk I/O error"

def cannotLock : Cause :=
  .engine 3850 "disk I/O error"

/-- What stops a new file whose permissions cannot be found. -/
def noPermissions : Cause :=
  .engine 1802 "disk I/O error"

/-- What stops a reader of a write-ahead log who never finds its index as it should be. -/
def noAgreement : Cause :=
  .engine 15 "locking protocol"

structure Session where
  /-- Where its file is; a database without one is gone when it is closed. -/
  place : Option Place
  database : Database
  readOnly : Bool
  /-- What stands beside the file does not count. -/
  isolated : Bool
  locking : Locking
  /-- The index of a write-ahead log is only read. -/
  readOnlyIndex : Bool
  deriving DecidableEq, Repr

/-- The longest name of a database in memory that a layer keeps, in bytes. -/
def maxPassingName : Nat := 1016

namespace FileTree

/-- Opens the file at a place. A directory can be opened for reading, but not read. -/
def openPlace (t : FileTree) (s : Source) (locking : Locking) (p : Place) :
    Except Cause Session × FileTree :=
  let session (db : Database) : Except Cause Session :=
    .ok ⟨some p, db, s.immutable || s.reach = .readOnly, s.immutable, locking, s.readOnlyIndex⟩
  if p = [] ∨ maxPath < pathLength (journal p) then (.error cannotOpen, t)
  else if s.permissionsOf.any fun name => !(t.resolve? name).any t.contains then (.error noPermissions, t)
  else if t.isDirectory p then (.error (if s.reach = .readOnly then cannotRead else cannotOpen), t)
  else match t.file? p with
    | some db => (session db, t)
    | none =>
      if s.reach = .create ∧ t.isDirectory p.dropLast then (session .empty, t.put p .empty)
      else (.error cannotOpen, t)

/-- Opens a source. A name without characters stands for a database of no file. -/
def openSource (t : FileTree) (s : Source) : Except Cause Session × FileTree :=
  let passing (readOnly : Bool) : Except Cause Session :=
    .ok ⟨none, .empty, readOnly, true, .none, false⟩
  if s.inMemory ∨ s.name = memoryName ∨ s.name.isEmpty then (passing (s.reach = .readOnly), t)
  else match s.layer with
    | .memory =>
      if maxPassingName < s.name.utf8ByteSize then (.error cannotOpen, t)
      else (passing (s.immutable || s.reach = .readOnly), t)
    | .files locking =>
      match t.resolve? s.name with
      | none => (.error cannotOpen, t)
      | some p => t.openPlace s locking p

def connect (t : FileTree) (path : String) : Except Error Session × FileTree :=
  match sourceOf path with
  | .error cause => (.error (.connection cause), t)
  | .ok source =>
    let (result, t) := t.openSource source
    (result.mapError .connection, t)

/-! ## What stands beside a file -/

/-- Plays back the journal of the file at a place. One beside a file in which nothing has been done is
removed if the file can be locked for it. -/
def settleJournal (t : FileTree) (s : Session) (p : Place) : Except Cause FileTree :=
  if !t.isUsed (journal p) then .ok t
  else if s.database = .empty then
    .ok (if s.readOnly && s.locking.isByFile then t else t.remove (journal p))
  else if t.isDirectory (journal p) then .error cannotRead
  else if s.readOnly then .error cannotPlayBack
  else .ok (t.remove (journal p))

/-- Takes in the write-ahead log of the file at a place. One beside a file in which nothing has been done is
removed unread. One that is only read stays, and its index with it. Who keeps out every other process needs
no index, unless the file is only read. -/
def settleWriteAhead (t : FileTree) (s : Session) (p : Place) : Except Cause FileTree :=
  if !t.isUsed (writeAhead p) then .ok t
  else if s.database = .empty then
    if t.isDirectory (writeAhead p) then .error cannotRemove else .ok (t.remove (writeAhead p))
  else if !s.locking.isByFile || t.isDirectory (writeAhead p) then .error cannotOpen
  else if s.locking = .exclusive && !s.readOnly then .ok (t.remove (writeAhead p))
  else if t.isDirectory (writeAheadIndex p) then .error noAgreement
  else if s.readOnlyIndex then
    .error (if (t.file? (writeAheadIndex p)).isSome then noAgreement else cannotOpen)
  else if s.readOnly then .ok (t.put (writeAheadIndex p) .empty)
  else .ok ((t.remove (writeAhead p)).remove (writeAheadIndex p))

/-- Locks a file for the first access to it, and settles what stands beside it. -/
def settle (t : FileTree) (s : Session) : Except Cause FileTree :=
  match s.place with
  | none => .ok t
  | some p =>
    if s.isolated then .ok t
    else if s.locking = .directory && t.contains (lockDirectory p) then .error isLocked
    else if s.locking = .directory && !isNameable (lockDirectory p) then .error cannotLock
    else do (← t.settleJournal s p).settleWriteAhead s p

/-! ## Changes -/

/-- A journal can be written for the file at a place. -/
def canJournal (t : FileTree) (p : Place) : Bool :=
  isNameable (journal p) && !t.isDirectory (journal p)

/-- Keeps what has been done in a session. Its journal is gone afterwards. -/
def save (t : FileTree) (s : Session) : FileTree :=
  match s.place with
  | some p => (t.put p s.database).remove (journal p)
  | none => t

def migrate (t : FileTree) (s : Session) : Except Error Session × FileTree :=
  match t.settle s with
  | .error cause => (.error (.execution cause), t)
  | .ok t =>
    if s.database.pending.isEmpty then (.ok s, t)
    else if s.readOnly then (.error (.execution isReadOnly), t)
    else if s.place.all t.canJournal then
      let s := { s with database := s.database.up none }
      (.ok s, t.save s)
    else (.error (.execution cannotOpen), t)

def connectMigrated (t : FileTree) (path : String) : Except Error Session × FileTree :=
  match t.connect path with
  | (.error e, t) => (.error e, t)
  | (.ok s, t) => t.migrate s

def rowsAt (t : FileTree) (path : String) : Except Error (List Store.Row) × FileTree :=
  match t.connect path with
  | (.error e, t) => (.error e, t)
  | (.ok s, t) =>
    match t.settle s with
    | .error cause => (.error (.query cause), t)
    | .ok t => (s.database.rows, t)

end FileTree

end Garage.Location

import Garage.Store.Database
import Garage.Web.Answer

/-!
The service that keeps vehicles in a database. Registering is one transaction: when it fails, the database
is as it was before.
-/

namespace Garage.Registry

open Garage.Store (Database)

/-- The vehicle of a user. The username is taken as it is. -/
def lookup (db : Database) (username : String) : Web.Lookup :=
  match db.find username with
  | .error e => .error (.database e)
  | .ok none => .error (.userNotFound username)
  | .ok (some row) => .ok ⟨row.make, row.model⟩

/-- What came of registering: a failure if any, the notes made, and the database afterwards. -/
structure Registration where
  result : Except Failure Unit
  log : Log
  database : Database

def replacing (username : String) : Note :=
  ⟨.debug, .vehicles, s!"Replacing vehicle for {username}"⟩

def registered (username : String) (d : Details) : Note :=
  ⟨.info, .vehicles, s!"Registered {d.make} {d.model} for {username}"⟩

/-- Why details without a make or a model are refused. -/
def emptyDetails : Failure :=
  .badRequest "make and model must not be empty"

/-- Puts the details of a user into the table, in place of any that are there, and tells the notes made
meanwhile. A row whose id cannot be read back is in the table when this fails. -/
def put (username : String) (d : Details) (db : Database) : Except Store.Error Log × Database :=
  match db.find username with
  | .error e => (.error e, db)
  | .ok (some row) => (.ok [replacing username], db.replace row.id d.make d.model)
  | .ok none =>
    match db.insert ⟨none, username, d.make, d.model, .now⟩ with
    | (.error e, db) => (.error e, db)
    | (.ok _, db) => (.ok [], db)

/-- Writes the details of a user whose username is canonical, in one transaction. -/
def write (db : Database) (username : String) (d : Details) : Registration :=
  match db.transaction (put username d) with
  | (.error e, db) => ⟨.error (.database e), [], db⟩
  | (.ok notes, db) => ⟨.ok (), notes ++ [registered username d], db⟩

/-- Registers a vehicle for a user, in place of any that there was. The username is judged first; make
and model are trimmed. -/
def register (db : Database) (name : String) (d : Details) : Registration :=
  match Username.canonical name with
  | .error fault => ⟨.error (.badRequest fault.reason), [], db⟩
  | .ok username =>
    let d : Details := ⟨Text.trimmed d.make, Text.trimmed d.model⟩
    if d.make.isEmpty || d.model.isEmpty then ⟨.error emptyDetails, [], db⟩
    else write db username d

/-- The registry as a service for requests. -/
def service (username : String) (db : Database) : Except Crash Web.Lookup × Database :=
  (.ok (lookup db username), db)

/-- Writing is committed and noted, or it fails and nothing has happened. -/
theorem write_cases (db : Database) (username : String) (d : Details) :
    (∃ notes, (put username d db).1 = .ok notes ∧
      write db username d = ⟨.ok (), notes ++ [registered username d], (put username d db).2⟩) ∨
    ∃ e, (put username d db).1 = .error e ∧ write db username d = ⟨.error (.database e), [], db⟩ := by
  rcases db.transaction_cases (put username d) with ⟨notes, hp, ht⟩ | ⟨e, hp, ht⟩
  · exact .inl ⟨notes, hp, by rw [write, ht]⟩
  · exact .inr ⟨e, hp, by rw [write, ht]⟩

end Garage.Registry

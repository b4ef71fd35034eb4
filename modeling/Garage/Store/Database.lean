import Garage.Crash
import Garage.Store.Table

/-!
The database: the table of vehicles, if it has been created, and the migrations applied. A migration is
recorded as applied exactly when what it creates is there.
-/

namespace Garage.Store

/-- A change of the schema. -/
inductive Migration where
  | createUserVehicles
  deriving DecidableEq, Repr

namespace Migration

/-- All migrations, in the order in which they are applied. -/
def all : List Migration := [createUserVehicles]

/-- The name under which a migration is recorded. -/
def name : Migration → String
  | createUserVehicles => "m0001_create_user_vehicles"

end Migration

/-- The table of vehicles, if it is there, and the migrations applied, the latest last. -/
structure Database where
  table : Option Table
  applied : List Migration
  deriving DecidableEq, Repr

/-- What stops a statement when the table is not there. -/
def noTable : Cause :=
  .engine 1 "no such table: user_vehicles"

/-- What stops a row whose id cannot be read back. -/
def idOutOfRange : Cause :=
  .decoding "id" "number too large to fit in target type"

/-- What stops a row that clashes with another. -/
def Clash.cause : Clash → Cause
  | id => .engine 1555 "UNIQUE constraint failed: user_vehicles.id"
  | username => .engine 2067 "UNIQUE constraint failed: user_vehicles.username"

structure Column where
  name : String
  type : String
  required : Bool
  default : Option String
  isKey : Bool
  deriving DecidableEq, Repr

def userVehicleColumns : List Column := [
  ⟨"id", "integer", true, none, true⟩,
  ⟨"username", "varchar", true, none, false⟩,
  ⟨"make", "varchar", true, none, false⟩,
  ⟨"model_name", "varchar", true, none, false⟩,
  ⟨"created_at", "datetime_text", true, some "CURRENT_TIMESTAMP", false⟩]

namespace Database

def empty : Database := ⟨none, []⟩

/-! ## Statements -/

def find (db : Database) (username : String) : Except Error (Option Row) :=
  match db.table with
  | none => .error (.query noTable)
  | some t =>
    match t.find? username with
    | none => .ok none
    | some r => if r.isReadable then .ok (some r) else .error (.query idOutOfRange)

/-- All rows, by id. -/
def rows (db : Database) : Except Error (List Row) :=
  match db.table with
  | none => .error (.query noTable)
  | some t => if t.rows.all Row.isReadable then .ok t.byId else .error (.query idOutOfRange)

/-- Writes a new row. A row whose id cannot be read back is written, and an error answered. -/
def insert (db : Database) (r : NewRow) : Except Error Row × Database :=
  match db.table with
  | none => (.error (.execution noTable), db)
  | some t =>
    match t.insert r with
    | .error clash => (.error (.execution clash.cause), db)
    | .ok (row, t) =>
      (if row.isReadable then .ok row else .error .insertIdUnreadable, { db with table := some t })

/-- Writes a new row whose id may be any. The engine tells the id of each row that it has written, and one
below zero is held for impossible: then work is given up. -/
def insertAny (db : Database) (r : NewRow) : Except Crash (Except Error Row × Database) :=
  match db.insert r with
  | (.ok row, db) =>
    if row.id < 0 then .error ⟨"internal error: entered unreachable code: negative last_insert_rowid"⟩
    else .ok (.ok row, db)
  | failed => .ok failed

/-- Puts another make and model into the row with this id. -/
def replace (db : Database) (id : Int) (make model : String) : Database :=
  { db with table := db.table.map (·.replace id make model) }

/-- Deletes the rows of a user, and counts them. -/
def delete (db : Database) (username : String) : Except Error Nat × Database :=
  match db.table with
  | none => (.error (.execution noTable), db)
  | some t =>
    let (n, t) := t.delete username
    (.ok n, { db with table := some t })

def columns (db : Database) : List Column :=
  if db.table.isSome then userVehicleColumns else []

/-! ## Transactions -/

/-- Does work on the database as one transaction: it is committed if the work succeeds, and rolled back if it
fails, whatever the work has written by then. -/
def transaction {ε α : Type} (db : Database) (work : Database → Except ε α × Database) :
    Except ε α × Database :=
  match work db with
  | (.ok a, db') => (.ok a, db')
  | (.error e, _) => (.error e, db)

/-- What a transaction comes to: what the work has changed is kept, or the database is as it was. -/
theorem transaction_cases {ε α : Type} (db : Database) (work : Database → Except ε α × Database) :
    (∃ a, (work db).1 = .ok a ∧ db.transaction work = (.ok a, (work db).2)) ∨
      ∃ e, (work db).1 = .error e ∧ db.transaction work = (.error e, db) := by
  rw [transaction]
  rcases work db with ⟨e | a, db'⟩
  · exact .inr ⟨e, rfl, rfl⟩
  · exact .inl ⟨a, rfl, rfl⟩

/-! ## Migrations -/

def pending (db : Database) : List Migration :=
  Migration.all.filter fun m => !db.applied.contains m

/-- Applies a migration. A table that is there already is left alone. -/
def apply (db : Database) (m : Migration) : Database :=
  match m with
  | .createUserVehicles => ⟨some (db.table.getD .empty), db.applied ++ [m]⟩

/-- Reverts a migration: its table is dropped with all that it holds. -/
def revert (db : Database) (m : Migration) : Except Error Database :=
  match m with
  | .createUserVehicles =>
    match db.table with
    | none => .error (.execution noTable)
    | some _ => .ok ⟨none, db.applied.filter (· != m)⟩

/-- Applies the next `steps` migrations, or all that are pending. -/
def up (db : Database) (steps : Option Nat) : Database :=
  (match steps with
    | some n => db.pending.take n
    | none => db.pending).foldl apply db

/-- Reverts the last `steps` migrations, or all that are applied. -/
def down (db : Database) (steps : Option Nat) : Except Error Database :=
  (match steps with
    | some n => db.applied.reverse.take n
    | none => db.applied.reverse).foldlM revert db

def reset (db : Database) : Except Error Database :=
  db.down none

def refresh (db : Database) : Except Error Database :=
  (db.down none).map (·.up none)

/-- Drops every table, whatever is recorded, and applies all migrations. -/
def fresh (_ : Database) : Database :=
  empty.up none

/-- A database to which all migrations have just been applied. -/
def migrated : Database :=
  empty.up none

/-- What is recorded is what is there. -/
def Consistent (db : Database) : Prop :=
  db.applied = if db.table.isSome then Migration.all else []

instance (db : Database) : Decidable db.Consistent :=
  inferInstanceAs (Decidable (_ = _))

theorem consistent_empty : empty.Consistent := by decide

theorem consistent_migrated : migrated.Consistent := by decide

end Database

end Garage.Store

import Garage.Store.Error
import Garage.Store.Timestamp

/-!
The table of vehicles, one row per user. No two rows share an id or a username, and an id that a row has
had is never given out again.
-/

namespace Garage.Store

structure Row where
  id : Int
  username : String
  make : String
  model : String
  createdAt : Timestamp
  deriving DecidableEq, Repr

/-- The largest id that can be read back. -/
def maxId : Int := 2147483647

/-- The smallest id that can be read back. -/
def minId : Int := -2147483648

/-- The row's id can be read back. -/
def Row.isReadable (r : Row) : Bool :=
  minId ≤ r.id && r.id ≤ maxId

structure NewRow where
  /-- The id; if absent, the next one is given out. -/
  id : Option Int
  username : String
  make : String
  model : String
  createdAt : Timestamp
  deriving DecidableEq, Repr

/-- What a new row has in common with one that is there. -/
inductive Clash where
  | id
  | username
  deriving DecidableEq, Repr

/-- The table: its rows in the order in which they were written, and the largest id given out or written
so far, zero if there was no positive one. -/
structure Table where
  rows : List Row
  lastId : Nat
  deriving DecidableEq, Repr

namespace Table

def empty : Table := ⟨[], 0⟩

def nextId (t : Table) : Int :=
  t.lastId + 1

/-- The row of a user; the username must match exactly. -/
def find? (t : Table) (username : String) : Option Row :=
  t.rows.find? (·.username == username)

def byId (t : Table) : List Row :=
  t.rows.mergeSort fun a b => a.id ≤ b.id

def rowOf (t : Table) (r : NewRow) : Row :=
  ⟨r.id.getD t.nextId, r.username, r.make, r.model, r.createdAt⟩

/-- Writes a new row. The id is judged before the username. -/
def insert (t : Table) (r : NewRow) : Except Clash (Row × Table) :=
  let row := t.rowOf r
  if t.rows.any (·.id == row.id) then .error .id
  else if t.rows.any (·.username == row.username) then .error .username
  else .ok (row, ⟨t.rows ++ [row], max t.lastId row.id.toNat⟩)

/-- Puts another make and model into the row with this id. -/
def replace (t : Table) (id : Int) (make model : String) : Table :=
  { t with rows := t.rows.map fun r => if r.id = id then { r with make, model } else r }

/-- Deletes the rows of a user, and counts them. -/
def delete (t : Table) (username : String) : Nat × Table :=
  (t.rows.countP (·.username == username),
    { t with rows := t.rows.filter fun r => !(r.username == username) })

@[simp] theorem lastId_replace (t : Table) (id : Int) (make model : String) :
    (t.replace id make model).lastId = t.lastId := rfl

/-- Usernames stay where they are when makes and models change. -/
theorem usernames_replace (t : Table) (id : Int) (make model : String) :
    (t.replace id make model).rows.map Row.username = t.rows.map Row.username := by
  simp only [replace, List.map_map]
  refine List.map_congr_left fun r _ => ?_
  simp only [Function.comp_apply]
  split <;> rfl

end Table

end Garage.Store

import Garage.Proofs.Store.Table
import Garage.Store.Database

/-!
# Changes of the schema

A consistent database is in one of two states: nothing is applied and there is no table, or all is applied
and there is one. No change of the schema fails on it, each leads from one of the two to the other or
stays, and what is created is empty. Statements leave the schema alone.
-/

namespace Garage.Store

/-- What can be asked of the migrations. -/
inductive Change where
  | up (steps : Option Nat)
  | down (steps : Option Nat)
  | fresh
  | refresh
  | reset
  deriving DecidableEq, Repr

def Change.apply (db : Database) : Change → Except Error Database
  | up steps => .ok (db.up steps)
  | down steps => db.down steps
  | fresh => .ok db.fresh
  | refresh => db.refresh
  | reset => db.reset

namespace Database

/-! ## The two states -/

theorem consistent_iff {db : Database} :
    db.Consistent ↔ db = empty ∨ ∃ t, db = ⟨some t, Migration.all⟩ := by
  obtain ⟨table, applied⟩ := db
  cases table with
  | none =>
    constructor
    · intro (h : applied = [])
      exact Or.inl (by rw [h, empty])
    · rintro (h | ⟨t, h⟩) <;> cases h
      rfl
  | some t =>
    constructor
    · intro (h : applied = Migration.all)
      exact Or.inr ⟨t, by rw [h]⟩
    · rintro (h | ⟨t, h⟩) <;> cases h
      rfl

theorem table_of_consistent {db : Database} (h : db.Consistent) :
    db.table.isSome = true ↔ .createUserVehicles ∈ db.applied := by
  rcases consistent_iff.mp h with rfl | ⟨t, rfl⟩
  · decide
  · exact iff_of_true rfl (List.mem_singleton_self _)

/-- What is applied and what is pending make up the list of all migrations. -/
theorem applied_append_pending {db : Database} (h : db.Consistent) :
    db.applied ++ db.pending = Migration.all := by
  rcases consistent_iff.mp h with rfl | ⟨t, rfl⟩ <;> rfl

theorem not_mem_pending {db : Database} {m : Migration} (h : m ∈ db.applied) : m ∉ db.pending := by
  rw [pending, List.mem_filter]
  rintro ⟨-, hp⟩
  rw [List.contains_iff_mem.mpr h] at hp
  cases hp

/-! ## Up and down -/

theorem up_of_applied (t : Table) (steps : Option Nat) :
    (⟨some t, Migration.all⟩ : Database).up steps = ⟨some t, Migration.all⟩ := by
  cases steps with
  | none => rfl
  | some n => cases n <;> rfl

theorem up_empty (steps : Option Nat) :
    empty.up steps = if steps = some 0 then empty else migrated := by
  match steps with
  | none => rfl
  | some 0 => rfl
  | some (n + 1) => cases n <;> rfl

theorem down_empty (steps : Option Nat) : empty.down steps = .ok empty := by
  cases steps with
  | none => rfl
  | some n => cases n <;> rfl

theorem down_of_applied (t : Table) (steps : Option Nat) :
    (⟨some t, Migration.all⟩ : Database).down steps =
      .ok (if steps = some 0 then ⟨some t, Migration.all⟩ else empty) := by
  match steps with
  | none => rfl
  | some 0 => rfl
  | some (n + 1) => cases n <;> rfl

theorem up_of_isEmpty {db : Database} (h : db.pending.isEmpty = true) : db.up none = db := by
  rw [up, List.isEmpty_iff.mp h]
  rfl

/-- Bringing a database up to date leaves nothing to be done. -/
theorem pending_up (db : Database) : (db.up none).pending = [] := by
  cases hc : db.applied.contains Migration.createUserVehicles with
  | true =>
    have hp : db.pending = [] := by
      rw [pending, Migration.all, List.filter_cons_of_neg (by rw [hc]; decide), List.filter_nil]
    rw [up_of_isEmpty (List.isEmpty_iff.mpr hp), hp]
  | false =>
    have hp : db.pending = [.createUserVehicles] := by
      rw [pending, Migration.all, List.filter_cons_of_pos (by rw [hc]; decide), List.filter_nil]
    have hu : db.up none = ⟨some (db.table.getD .empty), db.applied ++ [.createUserVehicles]⟩ := by
      rw [up, hp]
      rfl
    have hm : (db.up none).applied.contains Migration.createUserVehicles = true := by
      rw [hu, List.contains_iff_mem]
      exact List.mem_append_right _ List.mem_cons_self
    rw [pending, Migration.all, List.filter_cons_of_neg (by rw [hm]; decide), List.filter_nil]

/-- Migrations that are applied already are not applied again. -/
theorem up_eq_self {db : Database} (h : db.Consistent) (hm : .createUserVehicles ∈ db.applied)
    (steps : Option Nat) : db.up steps = db := by
  rcases consistent_iff.mp h with rfl | ⟨t, rfl⟩
  · cases hm
  · exact up_of_applied t steps

theorem refresh_eq {db : Database} (h : db.Consistent) : db.refresh = .ok migrated := by
  rcases consistent_iff.mp h with rfl | ⟨t, rfl⟩ <;> rfl

/-! ## Any change -/

/-- No change fails. It leaves all as it was, or drops the table, or leaves an empty one. -/
theorem exists_apply {db : Database} (h : db.Consistent) (change : Change) :
    ∃ db', change.apply db = .ok db' ∧ (db' = db ∨ db' = empty ∨ db' = migrated) := by
  cases change with
  | up steps =>
    refine ⟨_, rfl, ?_⟩
    rcases consistent_iff.mp h with rfl | ⟨t, rfl⟩
    · rw [up_empty]
      split
      · exact Or.inl rfl
      · exact Or.inr (Or.inr rfl)
    · exact Or.inl (up_of_applied t steps)
  | down steps =>
    rcases consistent_iff.mp h with rfl | ⟨t, rfl⟩
    · exact ⟨_, down_empty steps, Or.inl rfl⟩
    · refine ⟨_, down_of_applied t steps, ?_⟩
      split
      · exact Or.inl rfl
      · exact Or.inr (Or.inl rfl)
  | fresh => exact ⟨_, rfl, Or.inr (Or.inr rfl)⟩
  | refresh => exact ⟨_, refresh_eq h, Or.inr (Or.inr rfl)⟩
  | reset =>
    rcases consistent_iff.mp h with rfl | ⟨t, rfl⟩
    · exact ⟨_, down_empty none, Or.inl rfl⟩
    · exact ⟨_, down_of_applied t none, Or.inr (Or.inl rfl)⟩

/-! ## Statements -/

/-- The same is applied, and a table is there or not as before. -/
def SameSchema (db db' : Database) : Prop :=
  db'.applied = db.applied ∧ db'.table.isSome = db.table.isSome

theorem SameSchema.refl (db : Database) : SameSchema db db := ⟨rfl, rfl⟩

theorem Consistent.of_sameSchema {db db' : Database} (h : db.Consistent) (hs : SameSchema db db') :
    db'.Consistent := by
  rw [Consistent, hs.1, hs.2]
  exact h

theorem sameSchema_insert (db : Database) (r : NewRow) : SameSchema db (db.insert r).2 := by
  obtain ⟨table, applied⟩ := db
  cases table with
  | none => exact SameSchema.refl _
  | some t =>
    rw [insert]
    dsimp only
    split
    · exact SameSchema.refl _
    · exact ⟨rfl, rfl⟩

theorem sameSchema_replace (db : Database) (id : Int) (make model : String) :
    SameSchema db (db.replace id make model) :=
  ⟨rfl, Option.isSome_map⟩

theorem sameSchema_delete (db : Database) (username : String) :
    SameSchema db (db.delete username).2 := by
  obtain ⟨table, applied⟩ := db
  cases table with
  | none => exact SameSchema.refl _
  | some t => exact ⟨rfl, rfl⟩

end Database

end Garage.Store

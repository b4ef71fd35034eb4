import Garage.Proofs.Registry.Run
import Garage.Proofs.Store.Schema

/-!
# Registering is all or nothing

A database is also worked on past the registry: its schema changes, and rows are written and deleted with
any username and any id that can be read back. So ids may run out early, and the last id given out says
nothing about the rows that are there. In whatever state that leaves the database, a registration fails
for one of three reasons, and one that fails has not happened.
-/

namespace Garage.Registry

open Garage.Store (Change Database NewRow Row Table)

/-! ## Work on a database -/

/-- What may be done to a database. -/
inductive Work where
  | call (call : Call)
  | migrate (change : Change)
  /-- A row is written past the registry. -/
  | insert (r : NewRow)
  /-- The rows of a user are deleted past the registry. -/
  | delete (username : String)

/-- What came of work. -/
inductive Report where
  | answered (answer : Answer)
  | migrated (result : Except Store.Error Unit)
  | inserted (result : Except Crash (Except Store.Error Row))
  | deleted (result : Except Store.Error Nat)

/-- Does the work. A row that has been written stays, even if work is then given up. -/
def Work.perform (db : Database) : Work → Report × Database
  | .call c => (.answered (Registry.perform db c).1, (Registry.perform db c).2)
  | .migrate change =>
    match change.apply db with
    | .ok db' => (.migrated (.ok ()), db')
    | .error e => (.migrated (.error e), db)
  | .insert r => (.inserted ((db.insertAny r).map Prod.fst), (db.insert r).2)
  | .delete username => (.deleted (db.delete username).1, (db.delete username).2)

/-- Does one piece of work after the other. -/
def performAll (db : Database) : List Work → List Report × Database
  | [] => ([], db)
  | work :: rest =>
    ((work.perform db).1 :: (performAll (work.perform db).2 rest).1,
      (performAll (work.perform db).2 rest).2)

/-! ## What registering does to the schema and to the rows -/

/-- Without a table nothing is registered, for one reason or another. -/
theorem database_register_of_absent {db : Database} (ht : db.table = none) (name : String)
    (d : Details) : (register db name d).database = db := by
  rcases register_refused_or_write name d with ⟨reason, hr⟩ | ⟨u, hr⟩
  · rw [hr]
  · rw [hr, write_of_absent ht]

/-- The table after a registration: as it was, or as writing some details for some user leaves it. -/
theorem database_register {t : Table} (h : t.Bounded) (name : String) (d : Details)
    (applied : List Store.Migration) :
    (register ⟨some t, applied⟩ name d).database = ⟨some t, applied⟩ ∨
      ∃ u result t', Writes t u d.trimmed result t' ∧
        (register ⟨some t, applied⟩ name d).database = ⟨some t', applied⟩ := by
  rcases register_refused_or_write name d with ⟨reason, hr⟩ | ⟨u, hr⟩
  · rw [hr]
    exact Or.inl rfl
  · rw [hr]
    obtain ⟨t', hw, hd⟩ := writes h u d.trimmed applied
    exact Or.inr ⟨u, _, t', hw, hd⟩

/-- What other users are told is what they were told before. -/
theorem lookup_register_of_ne {db : Database} (h : ∀ t, db.table = some t → t.Lawful) {name u v : String}
    {d : Details} (hu : Username.canonical name = .ok u) (hok : (register db name d).result = .ok ())
    (hv : v ≠ u) : lookup (register db name d).database v = lookup db v := by
  obtain ⟨table, applied⟩ := db
  cases table with
  | none => rw [database_register_of_absent rfl]
  | some t =>
    have ht := h t rfl
    obtain ⟨w, t', hw, -, hwrites, hdb⟩ := exists_writes_of_ok ht.bounded hok
    obtain rfl := Except.ok.inj (hu.symm.trans hw)
    rw [hdb]
    exact lookup_congr (hwrites.find?_of_ne ht hv)

theorem sameSchema_put (u : String) (d : Details) (db : Database) :
    Database.SameSchema db (put u d db).2 := by
  unfold put
  split
  · exact .refl db
  · exact Database.sameSchema_replace db _ _ _
  · have hs := Database.sameSchema_insert db ⟨none, u, d.make, d.model, .now⟩
    split
    all_goals
      next hi =>
        rw [hi] at hs
        exact hs

theorem sameSchema_register (db : Database) (name : String) (d : Details) :
    Database.SameSchema db (register db name d).database := by
  rcases register_refused_or_write name d with ⟨reason, hr⟩ | ⟨u, hr⟩
  · rw [hr]
    exact .refl db
  · rw [hr]
    rcases write_cases db u d.trimmed with ⟨notes, -, hw⟩ | ⟨e, -, hw⟩
    · rw [hw]
      exact sameSchema_put u d.trimmed db
    · rw [hw]
      exact .refl db

/-- Work leaves the schema as it is, or drops the table, or leaves an empty one. -/
theorem schema_perform {db : Database} (h : db.Consistent) (work : Work) :
    Database.SameSchema db (work.perform db).2 ∨ (work.perform db).2 = .empty ∨
      (work.perform db).2 = .migrated := by
  cases work with
  | call c =>
    cases c with
    | register name d =>
      simp only [Work.perform, Registry.perform]
      exact Or.inl (sameSchema_register db name d)
    | lookup username => exact Or.inl (.refl db)
    | request r =>
      rw [Work.perform, perform_request]
      exact Or.inl (.refl db)
  | migrate change =>
    obtain ⟨db', hc, hd⟩ := Database.exists_apply h change
    rw [Work.perform, hc]
    rcases hd with rfl | rfl | rfl
    · exact Or.inl (.refl _)
    · exact Or.inr (Or.inl rfl)
    · exact Or.inr (Or.inr rfl)
  | insert r => exact Or.inl (Database.sameSchema_insert db r)
  | delete username => exact Or.inl (Database.sameSchema_delete db username)

/-! ## The databases that work leads to -/

/-- A row that is written past the registry has an id that can be read back. -/
def Work.InRange (db : Database) : Work → Prop
  | insert r => ∀ t, db.table = some t → Store.minId ≤ (t.rowOf r).id ∧ (t.rowOf r).id ≤ Store.maxId
  | _ => True

/-- Work on a new database leads to this one. -/
inductive Reached : Database → Prop
  | new : Reached .empty
  | step {db : Database} (h : Reached db) (work : Work) (hw : work.InRange db) :
    Reached (work.perform db).2

/-- The table is as the schema asks, and the ids in it can be read back. -/
structure Whole (t : Table) : Prop where
  lawful : t.Lawful
  readable : ∀ row ∈ t.rows, row.isReadable = true

theorem whole_empty : Whole .empty := ⟨Table.lawful_empty, fun _ hm => absurd hm List.not_mem_nil⟩

theorem Whole.insert {t t' : Table} (h : Whole t) {r : NewRow} {row : Row}
    (hi : t.insert r = .ok (row, t')) (hr : (t.rowOf r).isReadable = true) : Whole t' where
  lawful := h.lawful.insert hi
  readable := Table.forall_rows_insert h.readable hi hr

theorem Whole.writes {t t' : Table} (h : Whole t) {u : String} {d : Details}
    {result : Except Failure Unit} (hw : Writes t u d result t') : Whole t' := by
  cases hw with
  | unreadable hr hread => exact h
  | exhausted hr hid => exact h
  | @replaced row hr hread =>
    exact ⟨h.lawful.replace _ _ _, Table.forall_rows_replace h.readable h.readable _⟩
  | added hr hid =>
    exact h.insert (Table.insert_eq_add hr h.lawful.bounded.nextId_not_mem _ _)
      (isReadable_iff.mpr ⟨t.minId_le_nextId, hid⟩)

/-- The schema is consistent, and so is the table if there is one. -/
structure Tended (db : Database) : Prop where
  consistent : db.Consistent
  whole : ∀ t, db.table = some t → Whole t

theorem tended_empty : Tended .empty := ⟨Database.consistent_empty, fun _ h => nomatch h⟩

theorem tended_migrated : Tended .migrated where
  consistent := Database.consistent_migrated
  whole t h := by
    cases h
    exact whole_empty

theorem Tended.of_table {t t' : Table} {applied : List Store.Migration}
    (h : Tended ⟨some t, applied⟩) (ht : Whole t') : Tended ⟨some t', applied⟩ where
  consistent := h.consistent
  whole _ he := Option.some.inj he ▸ ht

theorem Tended.register {db : Database} (h : Tended db) (name : String) (d : Details) :
    Tended (register db name d).database := by
  obtain ⟨table, applied⟩ := db
  cases table with
  | none =>
    rw [database_register_of_absent rfl]
    exact h
  | some t =>
    have hw := h.whole t rfl
    rcases database_register hw.lawful.bounded name d applied with he | ⟨u, result, t', hw', he⟩
    · rw [he]
      exact h
    · rw [he]
      exact h.of_table (hw.writes hw')

theorem Tended.migrate {db db' : Database} (h : Tended db) {change : Change}
    (hc : change.apply db = .ok db') : Tended db' := by
  obtain ⟨db'', hc', hd⟩ := Database.exists_apply h.consistent change
  rw [hc'] at hc
  cases hc
  rcases hd with rfl | rfl | rfl
  · exact h
  · exact tended_empty
  · exact tended_migrated

theorem Tended.insert {db : Database} (h : Tended db) {r : NewRow}
    (hr : ∀ t, db.table = some t → (t.rowOf r).isReadable = true) : Tended (db.insert r).2 := by
  obtain ⟨table, applied⟩ := db
  cases table with
  | none => exact h
  | some t =>
    rw [Database.insert]
    dsimp only
    cases hi : t.insert r with
    | error clash => exact h
    | ok written => exact h.of_table ((h.whole t rfl).insert hi (hr t rfl))

theorem Tended.delete {db : Database} (h : Tended db) (username : String) :
    Tended (db.delete username).2 := by
  obtain ⟨table, applied⟩ := db
  cases table with
  | none => exact h
  | some t =>
    have hw := h.whole t rfl
    exact h.of_table ⟨hw.lawful.delete username, Table.forall_rows_delete hw.readable username⟩

/-- Each kind of work tends the database. -/
theorem Tended.perform {db : Database} (h : Tended db) {work : Work} (hw : work.InRange db) :
    Tended (work.perform db).2 := by
  cases work with
  | call c =>
    cases c with
    | register name d =>
      simp only [Work.perform, Registry.perform]
      exact h.register name d
    | lookup username => exact h
    | request r =>
      rw [Work.perform, perform_request]
      exact h
  | migrate change =>
    obtain ⟨db', hc, -⟩ := Database.exists_apply h.consistent change
    rw [Work.perform, hc]
    exact h.migrate hc
  | insert r =>
    rw [Work.InRange] at hw
    rw [Work.perform]
    exact h.insert fun t ht => isReadable_iff.mpr (hw t ht)
  | delete username =>
    rw [Work.perform]
    exact h.delete username

theorem Reached.tended {db : Database} (h : Reached db) : Tended db := by
  induction h with
  | new => exact tended_empty
  | step _ work hw ih => exact ih.perform hw

/-- Every table that work leads to is lawful. -/
theorem Reached.lawful {db : Database} (h : Reached db) : ∀ t, db.table = some t → t.Lawful :=
  fun t ht => (h.tended.whole t ht).lawful

/-! ## When registering fails -/

/-- There is no place for the details of this user: there is no table, or the user is new and the next id
could not be read back. -/
def NoPlace (db : Database) (u : String) : Prop :=
  db.table = none ∨
    ∃ t, db.table = some t ∧ u ∉ t.rows.map Row.username ∧ Store.maxId < t.nextId

/-- Writing fails where there is no place, and only there. -/
theorem result_write {db : Database} (h : Tended db) (u : String) (d : Details) :
    (NoPlace db u ∧ ∃ e, (write db u d).result = .error (.database e)) ∨
      (¬ NoPlace db u ∧ (write db u d).result = .ok ()) := by
  obtain ⟨table, applied⟩ := db
  cases table with
  | none =>
    rw [write_of_absent rfl]
    exact Or.inl ⟨Or.inl rfl, _, rfl⟩
  | some t =>
    have hw := h.whole t rfl
    obtain ⟨t', hwrites, -⟩ := writes hw.lawful.bounded u d applied
    generalize (write ⟨some t, applied⟩ u d).result = result at hwrites ⊢
    cases hwrites with
    | unreadable hr hread =>
      rw [hw.readable _ (Table.mem_of_find? hr)] at hread
      cases hread
    | replaced hr _ =>
      refine Or.inr ⟨?_, rfl⟩
      rintro (ht | ⟨_, ⟨rfl⟩, hu, -⟩)
      · cases ht
      · rw [Table.find?_eq_none_iff.mpr hu] at hr
        cases hr
    | added hr hid =>
      refine Or.inr ⟨?_, rfl⟩
      rintro (ht | ⟨_, ⟨rfl⟩, -, hlast⟩)
      · cases ht
      · exact absurd hid (Int.not_le.mpr hlast)
    | exhausted hr hid =>
      exact Or.inl ⟨Or.inr ⟨t, rfl, Table.find?_eq_none_iff.mp hr, hid⟩, _, rfl⟩

/-- A registration is refused for its name, or else for a make or a model that is blank. -/
theorem register_refused_iff {db : Database} (h : Tended db) (name : String) (d : Details)
    (reason : String) :
    (register db name d).result = .error (.badRequest reason) ↔
      (∃ fault, Username.canonical name = .error fault ∧ reason = fault.reason) ∨
      ((∃ u, Username.canonical name = .ok u) ∧ d.trimmed.IsBlank ∧
        reason = "make and model must not be empty") := by
  cases hu : Username.canonical name with
  | error fault =>
    rw [register_of_fault hu]
    constructor
    · rintro ⟨⟩
      exact Or.inl ⟨fault, rfl, rfl⟩
    · rintro (⟨_, ⟨rfl⟩, rfl⟩ | ⟨⟨u, hu'⟩, -⟩)
      · rfl
      · cases hu'
  | ok u =>
    by_cases hb : d.trimmed.IsBlank
    · rw [register_of_blank hu hb]
      constructor
      · rintro ⟨⟩
        exact Or.inr ⟨⟨u, rfl⟩, hb, rfl⟩
      · rintro (⟨_, hf, -⟩ | ⟨-, -, rfl⟩)
        · cases hf
        · rfl
    · -- What is left is writing, and that fails in no other way than a database does.
      rw [register_eq_write hu hb]
      have hw : (write db u d.trimmed).result ≠ .error (.badRequest reason) := by
        rcases result_write h u d.trimmed with ⟨-, e, he⟩ | ⟨-, he⟩ <;> rw [he] <;> exact nofun
      refine iff_of_false hw ?_
      rintro (⟨_, hf, -⟩ | ⟨-, hb', -⟩)
      · cases hf
      · exact hb hb'

/-- Work that starts with a registration that fails goes on as if there had been none. -/
theorem performAll_of_failed {db : Database} {name : String} {d : Details} {f : Failure}
    (h : (register db name d).result = .error f) (works : List Work) :
    performAll db (.call (.register name d) :: works) =
      (.answered (.registration (.error f)) :: (performAll db works).1, (performAll db works).2) := by
  rw [performAll, Work.perform, perform, register_of_error h]

/-- Wherever work has led a database, a registration is refused exactly if the name has no canonical form
or else make or model is blank, each with its own reason; otherwise it fails exactly if there is no place
for the user, and succeeds if there is. A failed registration leaves the database as it was and no note,
and what is done afterwards goes on as if it had not been tried. One that succeeds is noted; from then on the
user is told the trimmed details, and every other username is answered as before. -/
theorem register_all_or_nothing {db : Database} (h : Reached db) (name : String) (d : Details) :
    (∀ reason, (register db name d).result = .error (.badRequest reason) ↔
      (∃ fault, Username.canonical name = .error fault ∧ reason = fault.reason) ∨
      ((∃ u, Username.canonical name = .ok u) ∧ d.trimmed.IsBlank ∧
        reason = "make and model must not be empty")) ∧
    (∀ u, Username.canonical name = .ok u → ¬ d.trimmed.IsBlank →
      ((∃ e, (register db name d).result = .error (.database e)) ↔ NoPlace db u) ∧
      ((register db name d).result = .ok () ↔ ¬ NoPlace db u)) ∧
    (∀ f, (register db name d).result = .error f →
      (register db name d).database = db ∧ (register db name d).log = [] ∧
      ∀ works, performAll db (.call (.register name d) :: works) =
        (.answered (.registration (.error f)) :: (performAll db works).1,
          (performAll db works).2)) ∧
    ((register db name d).result = .ok () → ∃ u, Username.canonical name = .ok u ∧
      registered u d.trimmed ∈ (register db name d).log ∧
      lookup (register db name d).database u = .ok d.trimmed ∧
      ∀ v, v ≠ u → lookup (register db name d).database v = lookup db v) := by
  refine ⟨register_refused_iff h.tended name d, ?_, ?_, ?_⟩
  · intro u hu hb
    rw [register_eq_write hu hb]
    rcases result_write h.tended u d.trimmed with ⟨hn, e, he⟩ | ⟨hn, he⟩
    · rw [he]
      exact ⟨iff_of_true ⟨e, rfl⟩ hn, iff_of_false nofun (not_not_intro hn)⟩
    · rw [he]
      exact ⟨iff_of_false nofun hn, iff_of_true rfl hn⟩
  · intro f hf
    refine ⟨?_, ?_, performAll_of_failed hf⟩
    · rw [register_of_error hf]
    · rw [register_of_error hf]
  · intro hok
    obtain ⟨u, notes, hu, -, hlog⟩ := register_of_ok hok
    refine ⟨u, hu, ?_, lookup_register_of_ok hu hok, fun v => lookup_register_of_ne h.lawful hu hok⟩
    rw [hlog]
    exact List.mem_append_right notes (List.mem_singleton_self _)

/-- A row with the last id was written past the registry, so a new user cannot be registered. -/
theorem register_all_or_nothing_of_last_id :
    Reached ⟨some ⟨[⟨2147483647, "jdoe", "Toyota", "Corolla", .now⟩], 2147483647⟩,
      Store.Migration.all⟩ ∧
    (∃ e, (register ⟨some ⟨[⟨2147483647, "jdoe", "Toyota", "Corolla", .now⟩], 2147483647⟩,
      Store.Migration.all⟩ "SBoot " ⟨"Honda", "Civic"⟩).result = .error (.database e)) := by
  have hup : Reached .migrated := .step .new (.migrate (.up none)) trivial
  have hrange : (Work.insert ⟨some 2147483647, "jdoe", "Toyota", "Corolla", .now⟩).InRange
      .migrated := by
    rintro _ ⟨⟩
    decide
  have h : Reached ⟨some ⟨[⟨2147483647, "jdoe", "Toyota", "Corolla", .now⟩], 2147483647⟩,
      Store.Migration.all⟩ := hup.step _ hrange
  have hu : Username.canonical "SBoot " = .ok "sboot" := by decide +kernel
  have hb : ¬ (Details.mk "Honda" "Civic").trimmed.IsBlank := by decide +kernel
  refine ⟨h, ((register_all_or_nothing h "SBoot " ⟨"Honda", "Civic"⟩).2.1 "sboot" hu hb).1.mpr ?_⟩
  exact Or.inr ⟨_, rfl, by decide, by decide⟩

end Garage.Registry

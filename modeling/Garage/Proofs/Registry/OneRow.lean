import Garage.Proofs.Registry.Upkeep

/-!
# Registering touches one row

Whatever rows a lawful table holds, a registration that succeeds replaces the make and model of the row
under the canonical username, or else adds one row; the rest of the table stays as it is, and no other
user is told anything new. The id of an added row is new over the whole life of the table: `Had` follows
the ids that rows have had through all work done since, to rows deleted and rows taken back.
-/

namespace Garage.Registry

open Garage.Store (Database Migration Row Table)

variable {t t' : Table} {applied : List Migration} {u : String} {d : Details}

/-! ## What work does to a table -/

/-- All that work can do to a table, short of dropping it. -/
inductive Alters (t : Table) : Table → Prop
  | kept : Alters t t
  | written {r : Store.NewRow} {row : Row} {t' : Table} (hi : t.insert r = .ok (row, t')) :
    Alters t t'
  | replaced (id : Int) (make model : String) : Alters t (t.replace id make model)
  | deleted (username : String) : Alters t (t.delete username).2

theorem Alters.lawful (ha : Alters t t') (h : t.Lawful) : t'.Lawful := by
  cases ha with
  | kept => exact h
  | written hi => exact h.insert hi
  | replaced id make model => exact h.replace id make model
  | deleted username => exact h.delete username

/-- The last id never goes back. -/
theorem Alters.lastId_le (ha : Alters t t') : t.lastId ≤ t'.lastId := by
  cases ha with
  | kept => exact Nat.le_refl _
  | written hi =>
    rw [(Table.eq_of_insert hi).2]
    exact Nat.le_max_left _ _
  | replaced id make model => exact Nat.le_refl _
  | deleted username => exact Nat.le_refl _

theorem Writes.alters {result : Except Failure Unit} (hw : Writes t u d result t') (h : t.Lawful) :
    Alters t t' := by
  cases hw with
  | unreadable hr hread => exact .kept
  | exhausted hr hid => exact .kept
  | replaced hr hread => exact .replaced _ _ _
  | added hr hid => exact .written (Table.insert_eq_add hr h.bounded.nextId_not_mem _ _)

/-- Work that is no change of the schema alters the table that is there. -/
theorem alters_perform (h : t.Lawful) (applied : List Migration) {work : Work}
    (hw : ∀ change, work ≠ .migrate change) :
    ∃ t', Alters t t' ∧ (work.perform ⟨some t, applied⟩).2 = ⟨some t', applied⟩ := by
  cases work with
  | call c =>
    cases c with
    | register name d =>
      simp only [Work.perform, Registry.perform]
      rcases database_register h.bounded name d applied with he | ⟨u, result, t', hw', he⟩
      · exact ⟨t, .kept, he⟩
      · exact ⟨t', hw'.alters h, he⟩
    | lookup username => exact ⟨t, .kept, rfl⟩
    | request r =>
      rw [Work.perform, perform_request]
      exact ⟨t, .kept, rfl⟩
  | migrate change => exact absurd rfl (hw change)
  | insert r =>
    simp only [Work.perform, Database.insert]
    cases hi : t.insert r with
    | error clash => exact ⟨t, .kept, rfl⟩
    | ok written => exact ⟨written.2, .written hi, rfl⟩
  | delete username => exact ⟨_, .deleted username, rfl⟩

/-! ## Ids that rows have had -/

/-- Some row of the table has had this id: it has it now, or it was given the id by a registration that was
then taken back, or that was so before some work was done. -/
inductive Had : Database → Int → Prop
  | row {t : Table} {applied : List Migration} {row : Row} (ht : t.Lawful) (hm : row ∈ t.rows) :
    Had ⟨some t, applied⟩ row.id
  | takenBack {t : Table} {applied : List Migration} {name : String} {d : Details} (ht : t.Lawful)
    (hr : (register ⟨some t, applied⟩ name d).result = .error (.database .insertIdUnreadable)) :
    Had ⟨some t, applied⟩ t.nextId
  | before {db : Database} {id : Int} (h : Had db id) (work : Work)
    (hw : ∀ change, work ≠ .migrate change) : Had (work.perform db).2 id

/-- A row is taken back only where ids have run out. -/
theorem exhausted_of_takenBack (ht : t.Lawful) {name : String}
    (hr : (register ⟨some t, applied⟩ name d).result = .error (.database .insertIdUnreadable)) :
    Store.maxId < t.nextId := by
  revert hr
  rcases register_refused_or_write name d with ⟨reason, he⟩ | ⟨u, he⟩
  · rw [he]
    exact nofun
  · rw [he]
    obtain ⟨t', hw, -⟩ := writes ht.bounded u d.trimmed applied
    intro hr
    rw [hr] at hw
    cases hw with
    | exhausted hr hid => exact hid

/-- An id that was had is below the next one, unless ids have run out. -/
theorem Had.bound {db : Database} {id : Int} (h : Had db id) :
    ∃ t applied, db = ⟨some t, applied⟩ ∧ t.Lawful ∧
      (id ≤ t.lastId ∨ Store.maxId ≤ t.lastId) := by
  induction h with
  | row ht hm => exact ⟨_, _, rfl, ht, Or.inl (ht.bounded _ hm)⟩
  | takenBack ht hr =>
    have hid := exhausted_of_takenBack ht hr
    rw [Table.nextId] at hid
    exact ⟨_, _, rfl, ht, Or.inr (Int.le_of_lt_add_one hid)⟩
  | before _ work hw ih =>
    obtain ⟨t, applied, rfl, ht, hid⟩ := ih
    obtain ⟨t', ha, hp⟩ := alters_perform ht applied hw
    have hlast := ha.lastId_le
    refine ⟨t', applied, hp, ha.lawful ht, ?_⟩
    omega

/-- The next id that can be read back is one that no row has had. -/
theorem Had.lt_nextId {id : Int} (h : Had ⟨some t, applied⟩ id) (hid : t.nextId ≤ Store.maxId) :
    id < t.nextId := by
  obtain ⟨_, _, ⟨⟩, -, hb⟩ := h.bound
  rw [Table.nextId] at hid ⊢
  omega

/-! ## The row that is touched -/

/-- The row of a user who was there keeps its id, username and time, and the others stay. -/
theorem Writes.replaces (hw : Writes t u d (.ok ()) t') (h : t.Lawful) {before after : List Row}
    {row : Row} (hr : t.rows = before ++ row :: after) (hu : row.username = u) :
    t' = ⟨before ++ { row with make := d.make, model := d.model } :: after, t.lastId⟩ := by
  have hm : row ∈ t.rows := by
    rw [hr]
    exact List.mem_append_right before List.mem_cons_self
  have hfound := (Table.find?_eq_some_iff h.usernames).mpr ⟨hm, hu⟩
  cases hw with
  | replaced hr' hread =>
    obtain rfl := Option.some.inj (hr'.symm.trans hfound)
    exact h.replace_eq hr _ _
  | added hr' hid =>
    rw [hfound] at hr'
    cases hr'

/-- A user who was not there gets one row, behind the others and with a new id. -/
theorem Writes.adds (hw : Writes t u d (.ok ()) t') (applied : List Migration)
    (hu : u ∉ t.rows.map Row.username) :
    ∃ id, t'.rows = t.rows ++ [⟨id, u, d.make, d.model, .now⟩] ∧
      ∀ old, Had ⟨some t, applied⟩ old → old < id := by
  cases hw with
  | replaced hr hread =>
    rw [Table.find?_eq_none_iff.mpr hu] at hr
    cases hr
  | added hr hid => exact ⟨t.nextId, rfl, fun old ho => ho.lt_nextId hid⟩

/-- To write the same details again changes nothing. -/
theorem write_again (h : t'.Lawful) {row : Row} (hr : t'.find? u = some row)
    (hread : row.isReadable = true) (applied : List Migration) :
    write ⟨some t', applied⟩ u ⟨row.make, row.model⟩ =
      ⟨.ok (), [replacing u, registered u ⟨row.make, row.model⟩], ⟨some t', applied⟩⟩ := by
  rw [write_of_found hr hread, h.replace_eq_self (Table.mem_of_find? hr)]

/-- A registration that succeeds, whatever rows the table holds: the row under the canonical username gets
the trimmed make and model and keeps all else; or, if there was none, one row is added, whose id is above
every id that a row has had since the table was created. The user is told the trimmed details from then
on, every other username is answered as before, and the same registration again changes nothing. -/
theorem register_touches_one_row (h : t.Lawful) {name : String}
    (hok : (register ⟨some t, applied⟩ name d).result = .ok ()) :
    ∃ u t', Username.canonical name = .ok u ∧
      (register ⟨some t, applied⟩ name d).database = ⟨some t', applied⟩ ∧
      (∀ before row after, t.rows = before ++ row :: after → row.username = u →
        t' = ⟨before ++ { row with make := d.trimmed.make, model := d.trimmed.model } :: after,
          t.lastId⟩) ∧
      (u ∉ t.rows.map Row.username →
        ∃ id, t'.rows = t.rows ++ [⟨id, u, d.trimmed.make, d.trimmed.model, .now⟩] ∧
          ∀ old, Had ⟨some t, applied⟩ old → old < id) ∧
      lookup ⟨some t', applied⟩ u = .ok d.trimmed ∧
      (∀ v, v ≠ u → lookup ⟨some t', applied⟩ v = lookup ⟨some t, applied⟩ v) ∧
      (register ⟨some t', applied⟩ name d).result = .ok () ∧
      (register ⟨some t', applied⟩ name d).database = ⟨some t', applied⟩ := by
  obtain ⟨u, t', hu, hb, hw, hdb⟩ := exists_writes_of_ok h.bounded hok
  obtain ⟨row, hr, hread, hmake, hmodel⟩ := hw.exists_find?
  have hd : d.trimmed = ⟨row.make, row.model⟩ := by rw [hmake, hmodel]
  have hagain := write_again ((hw.alters h).lawful h) hr hread applied
  rw [← hd] at hagain
  refine ⟨u, t', hu, hdb, fun before row after => hw.replaces h, hw.adds applied, ?_,
    fun v hv => lookup_congr (hw.find?_of_ne h hv), ?_, ?_⟩
  · rw [lookup, find_of_found hr hread, hd]
  · rw [register_eq_write hu hb, hagain]
  · rw [register_eq_write hu hb, hagain]

/-- Rows that look alike were written past the registry, and the last one was deleted. -/
theorem register_touches_one_row_of_lookalikes :
    Table.Lawful ⟨[⟨3, "SBoot ", "", "", .now⟩, ⟨5, "sboot", "Honda", "Civic", .now⟩], 9⟩ ∧
    (register ⟨some ⟨[⟨3, "SBoot ", "", "", .now⟩, ⟨5, "sboot", "Honda", "Civic", .now⟩], 9⟩,
      Migration.all⟩ "SBoot " ⟨" Mazda", "MX-5 "⟩).database =
      ⟨some ⟨[⟨3, "SBoot ", "", "", .now⟩, ⟨5, "sboot", "Mazda", "MX-5", .now⟩], 9⟩,
        Migration.all⟩ := by
  let first : Row := ⟨3, "SBoot ", "", "", .now⟩
  let second : Row := ⟨5, "sboot", "Honda", "Civic", .now⟩
  have h : Table.Lawful ⟨[first, second], 9⟩ :=
    ⟨by decide, by decide, by unfold Table.Bounded; decide⟩
  have hok : (register ⟨some ⟨[first, second], 9⟩, Migration.all⟩ "SBoot "
      ⟨" Mazda", "MX-5 "⟩).result = .ok () := by decide +kernel
  obtain ⟨u, t', hu, hdb, hreplaces, -⟩ := register_touches_one_row h hok
  have hname : Username.canonical "SBoot " = .ok "sboot" := by decide +kernel
  rw [hname] at hu
  cases hu
  refine ⟨h, ?_⟩
  rw [hdb, hreplaces [first] second [] rfl rfl]
  rfl

end Garage.Registry

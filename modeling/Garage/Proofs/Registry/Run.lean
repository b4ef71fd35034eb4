import Garage.Proofs.Store.Table
import Garage.Proofs.Username
import Garage.Registry
import Mathlib.Data.Finset.Card

/-!
# What registering does, and what a run of the registry keeps

`Registers` lists all that a registration can do to a table: it is refused and changes nothing, it
replaces the make and model of one row, or it adds one row. A sound table stays sound in each case, so
every table that a run of calls leads to is sound, and its rows are those of the users who were
registered, in the order in which they first were.
-/

namespace Garage

namespace Details

/-- The details without the blanks around make and model. -/
def trimmed (d : Details) : Details := ⟨Text.trimmed d.make, Text.trimmed d.model⟩

/-- Make or model is missing. -/
def IsBlank (d : Details) : Prop := d.make = "" ∨ d.model = ""

theorem trimmed_trimmed (d : Details) : d.trimmed.trimmed = d.trimmed := by
  rw [trimmed, trimmed, Text.trimmed_trimmed, Text.trimmed_trimmed]

instance (d : Details) : Decidable d.IsBlank :=
  inferInstanceAs (Decidable (_ ∨ _))

theorem isBlank_iff (d : Details) : (d.make.isEmpty || d.model.isEmpty) = true ↔ d.IsBlank := by
  rw [Bool.or_eq_true, String.isEmpty_iff, String.isEmpty_iff, IsBlank]

end Details

namespace Registry

open Garage.Store (Database Row Table)

/-! ## Registering -/

theorem register_of_fault {name : String} {fault : Username.Fault}
    (hf : Username.canonical name = .error fault) (db : Database) (d : Details) :
    register db name d = ⟨.error (.badRequest fault.reason), [], db⟩ := by
  rw [register, hf]

theorem register_of_blank {name u : String} {d : Details} (hu : Username.canonical name = .ok u)
    (hb : d.trimmed.IsBlank) (db : Database) :
    register db name d = ⟨.error emptyDetails, [], db⟩ := by
  rw [register, hu]
  exact if_pos ((Details.isBlank_iff d.trimmed).mpr hb)

theorem register_eq_write {name u : String} {d : Details} (hu : Username.canonical name = .ok u)
    (hb : ¬ d.trimmed.IsBlank) (db : Database) : register db name d = write db u d.trimmed := by
  rw [register, hu]
  exact if_neg fun he => hb ((Details.isBlank_iff d.trimmed).mp he)

/-- Registering is refused without a look at the database, or it is writing for one user. -/
theorem register_refused_or_write (name : String) (d : Details) :
    (∃ reason, ∀ db, register db name d = ⟨.error (.badRequest reason), [], db⟩) ∨
      ∃ u, ∀ db, register db name d = write db u d.trimmed := by
  cases hu : Username.canonical name with
  | error fault => exact Or.inl ⟨_, fun db => register_of_fault hu db d⟩
  | ok u =>
    by_cases hb : d.trimmed.IsBlank
    · exact Or.inl ⟨_, fun db => register_of_blank hu hb db⟩
    · exact Or.inr ⟨u, fun db => register_eq_write hu hb db⟩

/-- A registration that fails has not happened, and no note is made of it. -/
theorem register_of_error {db : Database} {name : String} {d : Details} {f : Failure}
    (h : (register db name d).result = .error f) : register db name d = ⟨.error f, [], db⟩ := by
  rcases register_refused_or_write name d with ⟨reason, hr⟩ | ⟨u, hr⟩
  · rw [hr] at h ⊢
    cases h
    rfl
  · rw [hr] at h ⊢
    rcases write_cases db u d.trimmed with ⟨notes, -, hw⟩ | ⟨e, -, hw⟩
    · rw [hw] at h
      cases h
    · rw [hw] at h ⊢
      cases h
      rfl

/-- A registration that succeeds is written for one user, and noted last. -/
theorem register_of_ok {db : Database} {name : String} {d : Details}
    (h : (register db name d).result = .ok ()) :
    ∃ u notes, Username.canonical name = .ok u ∧ ¬ d.trimmed.IsBlank ∧
      (register db name d).log = notes ++ [registered u d.trimmed] := by
  cases hu : Username.canonical name with
  | error fault =>
    rw [register_of_fault hu] at h
    cases h
  | ok u =>
    by_cases hb : d.trimmed.IsBlank
    · rw [register_of_blank hu hb] at h
      cases h
    rw [register_eq_write hu hb] at h ⊢
    rcases write_cases db u d.trimmed with ⟨notes, -, hw⟩ | ⟨e, -, hw⟩
    · exact ⟨u, notes, rfl, hb, by rw [hw]⟩
    · rw [hw] at h
      cases h

theorem find_of_found {t : Table} {u : String} {row : Row} (hr : t.find? u = some row)
    (hread : row.isReadable = true) (applied : List Store.Migration) :
    (⟨some t, applied⟩ : Database).find u = .ok (some row) := by
  simp only [Database.find, hr, hread, if_true]

theorem find_of_none {t : Table} {u : String} (hr : t.find? u = none)
    (applied : List Store.Migration) : (⟨some t, applied⟩ : Database).find u = .ok none := by
  simp only [Database.find, hr]

theorem write_of_found {t : Table} {u : String} {row : Row} (hr : t.find? u = some row)
    (hread : row.isReadable = true) (d : Details) (applied : List Store.Migration) :
    write ⟨some t, applied⟩ u d =
      ⟨.ok (), [replacing u, registered u d], ⟨some (t.replace row.id d.make d.model), applied⟩⟩ := by
  rw [write, Database.transaction, put, find_of_found hr hread]
  rfl

theorem isReadable_iff {row : Row} :
    row.isReadable = true ↔ Store.minId ≤ row.id ∧ row.id ≤ Store.maxId := by
  rw [Row.isReadable, Bool.and_eq_true, decide_eq_true_eq, decide_eq_true_eq]

theorem write_of_new {t : Table} {u : String} (hr : t.find? u = none)
    (hfresh : t.nextId ∉ t.rows.map Row.id) (hid : t.nextId ≤ Store.maxId) (d : Details)
    (applied : List Store.Migration) :
    write ⟨some t, applied⟩ u d =
      ⟨.ok (), [registered u d], ⟨some (t.add u d.make d.model), applied⟩⟩ := by
  have hread : (Row.mk t.nextId u d.make d.model .now).isReadable = true :=
    isReadable_iff.mpr ⟨t.minId_le_nextId, hid⟩
  have hi : (⟨some t, applied⟩ : Database).insert ⟨none, u, d.make, d.model, .now⟩ =
      (.ok ⟨t.nextId, u, d.make, d.model, .now⟩, ⟨some (t.add u d.make d.model), applied⟩) := by
    simp only [Database.insert, Table.insert_eq_add hr hfresh, hread, if_true]
  rw [write, Database.transaction, put, find_of_none hr]
  simp only [hi]
  rfl

/-- The row is written and its id not read back, so the transaction is given up. -/
theorem write_of_exhausted {t : Table} {u : String} (hr : t.find? u = none)
    (hfresh : t.nextId ∉ t.rows.map Row.id) (hid : Store.maxId < t.nextId) (d : Details)
    (applied : List Store.Migration) :
    write ⟨some t, applied⟩ u d =
      ⟨.error (.database .insertIdUnreadable), [], ⟨some t, applied⟩⟩ := by
  have hread : (Row.mk t.nextId u d.make d.model .now).isReadable = false :=
    Bool.eq_false_iff.mpr fun hr => Int.not_le.mpr hid (isReadable_iff.mp hr).2
  have hi : (⟨some t, applied⟩ : Database).insert ⟨none, u, d.make, d.model, .now⟩ =
      (.error .insertIdUnreadable, ⟨some (t.add u d.make d.model), applied⟩) := by
    simp only [Database.insert, Table.insert_eq_add hr hfresh, hread, Bool.false_eq_true, if_false]
  rw [write, Database.transaction, put, find_of_none hr]
  simp only [hi]

theorem lookup_of_absent {db : Database} (ht : db.table = none) (u : String) :
    lookup db u = .error (.database (.query Store.noTable)) := by
  rw [lookup, Database.find, ht]

theorem write_of_absent {db : Database} (ht : db.table = none) (u : String) (d : Details) :
    write db u d = ⟨.error (.database (.query Store.noTable)), [], db⟩ := by
  have hf : db.find u = .error (.query Store.noTable) := by rw [Database.find, ht]
  rw [write, Database.transaction, put, hf]

theorem find_of_unreadable {t : Table} {u : String} {row : Row} (hr : t.find? u = some row)
    (hread : row.isReadable = false) (applied : List Store.Migration) :
    (⟨some t, applied⟩ : Database).find u = .error (.query Store.idOutOfRange) := by
  simp only [Database.find, hr, hread, Bool.false_eq_true, if_false]

theorem write_of_unreadable {t : Table} {u : String} {row : Row} (hr : t.find? u = some row)
    (hread : row.isReadable = false) (d : Details) (applied : List Store.Migration) :
    write ⟨some t, applied⟩ u d =
      ⟨.error (.database (.query Store.idOutOfRange)), [], ⟨some t, applied⟩⟩ := by
  rw [write, Database.transaction, put, find_of_unreadable hr hread]

/-- Whatever else is in the table, the details that have been put there for a user are those found. -/
theorem lookup_put {db : Database} {u : String} {d : Details} {notes : Log}
    (h : (put u d db).1 = .ok notes) : lookup (put u d db).2 u = .ok d := by
  obtain ⟨table, applied⟩ := db
  cases table with
  | none => cases h
  | some t =>
  cases hr : t.find? u with
  | some row =>
    cases hread : row.isReadable with
    | true =>
      have hfound : (t.replace row.id d.make d.model).find? u =
          some { row with make := d.make, model := d.model } := by
        rw [Table.find?_replace, hr, Option.map_some, if_pos rfl]
      rw [put, find_of_found hr hread]
      dsimp only [Database.replace, Option.map_some]
      rw [lookup, find_of_found hfound hread]
    | false =>
      rw [put, find_of_unreadable hr hread] at h
      cases h
  | none =>
    rw [put, find_of_none hr, Database.insert] at h ⊢
    dsimp only at h ⊢
    cases hi : t.insert ⟨none, u, d.make, d.model, .now⟩ with
    | error clash =>
      rw [hi] at h
      cases h
    | ok written =>
      obtain ⟨row, t'⟩ := written
      have hfound := Table.find?_of_insert hr hi
      obtain ⟨rfl, -⟩ := Table.eq_of_insert hi
      rw [hi] at h
      dsimp only at h ⊢
      cases hread : (t.rowOf ⟨none, u, d.make, d.model, .now⟩).isReadable with
      | false =>
        rw [hread] at h
        cases h
      | true =>
        rw [if_pos rfl]
        dsimp only
        rw [lookup, find_of_found hfound hread]
        rfl

/-- What has been registered is told from then on. -/
theorem lookup_register_of_ok {db : Database} {name u : String} {d : Details}
    (hu : Username.canonical name = .ok u) (h : (register db name d).result = .ok ()) :
    lookup (register db name d).database u = .ok d.trimmed := by
  obtain ⟨-, -, -, hb, -⟩ := register_of_ok h
  rw [register_eq_write hu hb] at h ⊢
  rcases write_cases db u d.trimmed with ⟨notes, hp, hw⟩ | ⟨e, -, hw⟩
  · rw [hw]
    exact lookup_put hp
  · rw [hw] at h
    cases h

/-- All that writing the details of a user can do to a table, and what comes of it. -/
inductive Writes (t : Table) (u : String) (d : Details) : Except Failure Unit → Table → Prop
  | unreadable {row : Row} (hr : t.find? u = some row) (hread : row.isReadable = false) :
    Writes t u d (.error (.database (.query Store.idOutOfRange))) t
  | replaced {row : Row} (hr : t.find? u = some row) (hread : row.isReadable = true) :
    Writes t u d (.ok ()) (t.replace row.id d.make d.model)
  | added (hr : t.find? u = none) (hid : t.nextId ≤ Store.maxId) :
    Writes t u d (.ok ()) (t.add u d.make d.model)
  | exhausted (hr : t.find? u = none) (hid : Store.maxId < t.nextId) :
    Writes t u d (.error (.database .insertIdUnreadable)) t

theorem writes {t : Table} (h : t.Bounded) (u : String) (d : Details)
    (applied : List Store.Migration) :
    ∃ t', Writes t u d (write ⟨some t, applied⟩ u d).result t' ∧
      (write ⟨some t, applied⟩ u d).database = ⟨some t', applied⟩ := by
  cases hr : t.find? u with
  | some row =>
    cases hread : row.isReadable with
    | true =>
      rw [write_of_found hr hread]
      exact ⟨_, .replaced hr hread, rfl⟩
    | false =>
      rw [write_of_unreadable hr hread]
      exact ⟨_, .unreadable hr hread, rfl⟩
  | none =>
    by_cases hid : t.nextId ≤ Store.maxId
    · rw [write_of_new hr h.nextId_not_mem hid]
      exact ⟨_, .added hr hid, rfl⟩
    · have hid := Int.not_le.mp hid
      rw [write_of_exhausted hr h.nextId_not_mem hid]
      exact ⟨_, .exhausted hr hid, rfl⟩

/-- What a registration that succeeds writes, and for whom. -/
theorem exists_writes_of_ok {t : Table} (h : t.Bounded) {name : String} {d : Details}
    {applied : List Store.Migration} (hok : (register ⟨some t, applied⟩ name d).result = .ok ()) :
    ∃ u t', Username.canonical name = .ok u ∧ ¬ d.trimmed.IsBlank ∧ Writes t u d.trimmed (.ok ()) t' ∧
      (register ⟨some t, applied⟩ name d).database = ⟨some t', applied⟩ := by
  obtain ⟨u, -, hu, hb, -⟩ := register_of_ok hok
  rw [register_eq_write hu hb] at hok ⊢
  obtain ⟨t', hw, hdb⟩ := writes h u d.trimmed applied
  rw [hok] at hw
  exact ⟨u, t', hu, hb, hw, hdb⟩

/-- The details that were written are found again. -/
theorem Writes.exists_find? {t t' : Table} {u : String} {d : Details} (hw : Writes t u d (.ok ()) t') :
    ∃ row, t'.find? u = some row ∧ row.isReadable = true ∧ row.make = d.make ∧
      row.model = d.model := by
  cases hw with
  | replaced hr hread =>
    rw [Table.find?_replace, hr, Option.map_some, if_pos rfl]
    exact ⟨_, rfl, hread, rfl, rfl⟩
  | added hr hid =>
    rw [Table.find?_add, hr, Option.none_or, if_pos rfl]
    exact ⟨_, rfl, isReadable_iff.mpr ⟨t.minId_le_nextId, hid⟩, rfl, rfl⟩

/-- What is found for any other user stays as it was. -/
theorem Writes.find?_of_ne {t t' : Table} {u v : String} {d : Details}
    (hw : Writes t u d (.ok ()) t') (h : t.Lawful) (hv : v ≠ u) : t'.find? v = t.find? v := by
  cases hw with
  | replaced hr hread => exact Table.find?_replace_of_ne h.ids hr hv _ _
  | added hr hid => rw [Table.find?_add, if_neg (Ne.symm hv), Option.or_none]

theorem lookup_congr {t t' : Table} {applied : List Store.Migration} {v : String}
    (h : t'.find? v = t.find? v) : lookup ⟨some t', applied⟩ v = lookup ⟨some t, applied⟩ v := by
  rw [lookup, lookup, Database.find, Database.find]
  dsimp only
  rw [h]

/-! ## Sound tables -/

/-- The table of a registry: rows numbered from one as far as ids can be read back, one row a user, all
usernames canonical, all makes and models there and without blanks around them. -/
structure Sound (t : Table) : Prop where
  numbered : t.Numbered
  readable : (t.lastId : Int) ≤ Store.maxId
  usernames : (t.rows.map Row.username).Nodup
  canonical : ∀ row ∈ t.rows, Username.IsCanonical row.username
  filled : ∀ row ∈ t.rows, ¬ Details.IsBlank ⟨row.make, row.model⟩
  tidy : ∀ row ∈ t.rows, Details.trimmed ⟨row.make, row.model⟩ = ⟨row.make, row.model⟩

theorem sound_empty : Sound .empty where
  numbered := Table.numbered_empty
  readable := by decide
  usernames := List.nodup_nil
  canonical := fun _ hm => absurd hm List.not_mem_nil
  filled := fun _ hm => absurd hm List.not_mem_nil
  tidy := fun _ hm => absurd hm List.not_mem_nil

theorem Sound.isReadable {t : Table} (h : Sound t) {row : Row} (hm : row ∈ t.rows) :
    row.isReadable = true := by
  have hb := h.numbered.bounds hm
  have hr := h.readable
  rw [isReadable_iff, Store.minId]
  omega

theorem Sound.replace {t : Table} (h : Sound t) {d : Details} (hb : ¬ d.trimmed.IsBlank) (id : Int) :
    Sound (t.replace id d.trimmed.make d.trimmed.model) where
  numbered := h.numbered.replace _ _ _
  readable := h.readable
  usernames := by
    rw [Table.usernames_replace]
    exact h.usernames
  canonical := Table.forall_rows_replace h.canonical h.canonical id
  filled := Table.forall_rows_replace h.filled (fun _ _ => hb) id
  tidy := Table.forall_rows_replace h.tidy (fun _ _ => Details.trimmed_trimmed d) id

theorem Sound.add {t : Table} (h : Sound t) {d : Details} (hb : ¬ d.trimmed.IsBlank) {u : String}
    (hu : Username.IsCanonical u) (hr : t.find? u = none) (hid : t.nextId ≤ Store.maxId) :
    Sound (t.add u d.trimmed.make d.trimmed.model) where
  numbered := h.numbered.add _ _ _
  readable := by
    rw [Table.nextId] at hid
    rw [Table.add]
    exact_mod_cast hid
  usernames := by
    rw [Table.usernames_add]
    refine List.Nodup.append h.usernames (List.nodup_singleton _) ?_
    intro v hv hv'
    rw [List.mem_singleton.mp hv'] at hv
    exact Table.find?_eq_none_iff.mp hr hv
  canonical := Table.forall_rows_add h.canonical hu
  filled := Table.forall_rows_add h.filled hb
  tidy := Table.forall_rows_add h.tidy (Details.trimmed_trimmed d)

/-! ## All that registering can do -/

/-- What came of registering these details under this name, and the table afterwards. Details are blank
if nothing is left of make or model without the blanks around it, and ids are exhausted when the next one
could not be read back. -/
inductive Registers (t : Table) (name : String) (d : Details) : Except Failure Unit → Table → Prop
  | refused {fault : Username.Fault} (hf : Username.canonical name = .error fault) :
    Registers t name d (.error (.badRequest fault.reason)) t
  | blank {u : String} (hu : Username.canonical name = .ok u) (hb : d.trimmed.IsBlank) :
    Registers t name d (.error emptyDetails) t
  | replaced {u : String} {row : Row} (hu : Username.canonical name = .ok u)
    (hb : ¬ d.trimmed.IsBlank) (hr : t.find? u = some row) :
    Registers t name d (.ok ()) (t.replace row.id d.trimmed.make d.trimmed.model)
  | added {u : String} (hu : Username.canonical name = .ok u) (hb : ¬ d.trimmed.IsBlank)
    (hr : t.find? u = none) (hid : t.nextId ≤ Store.maxId) :
    Registers t name d (.ok ()) (t.add u d.trimmed.make d.trimmed.model)
  | exhausted {u : String} (hu : Username.canonical name = .ok u) (hb : ¬ d.trimmed.IsBlank)
    (hr : t.find? u = none) (hid : Store.maxId < t.nextId) :
    Registers t name d (.error (.database .insertIdUnreadable)) t

theorem registers {t : Table} (h : Sound t) (name : String) (d : Details)
    (applied : List Store.Migration) :
    ∃ t', Registers t name d (register ⟨some t, applied⟩ name d).result t' ∧
      (register ⟨some t, applied⟩ name d).database = ⟨some t', applied⟩ := by
  cases hu : Username.canonical name with
  | error fault =>
    rw [register_of_fault hu]
    exact ⟨t, .refused hu, rfl⟩
  | ok u =>
    by_cases hb : d.trimmed.IsBlank
    · rw [register_of_blank hu hb]
      exact ⟨t, .blank hu hb, rfl⟩
    rw [register_eq_write hu hb]
    obtain ⟨t', hw, hd⟩ := writes h.numbered.bounded u d.trimmed applied
    refine ⟨t', ?_, hd⟩
    generalize (write ⟨some t, applied⟩ u d.trimmed).result = result at hw ⊢
    cases hw with
    | unreadable hr hread =>
      rw [h.isReadable (Table.mem_of_find? hr)] at hread
      cases hread
    | replaced hr _ => exact .replaced hu hb hr
    | added hr hid => exact .added hu hb hr hid
    | exhausted hr hid => exact .exhausted hu hb hr hid

theorem Registers.sound {t t' : Table} {name : String} {d : Details} {result : Except Failure Unit}
    (hr : Registers t name d result t') (h : Sound t) : Sound t' := by
  cases hr with
  | refused hf => exact h
  | blank hu hb => exact h
  | replaced hu hb hr => exact h.replace hb _
  | added hu hb hr hid => exact h.add hb (Username.isCanonical_of_canonical hu) hr hid
  | exhausted hu hb hr hid => exact h

/-- The user whom a call has registered, given what came of it. -/
def registered? (name : String) : Except Failure Unit → Option String
  | .ok () => (Username.canonical name).toOption
  | .error _ => none

@[simp] theorem registered?_ok {name u : String} (hu : Username.canonical name = .ok u) :
    registered? name (.ok ()) = some u := by
  rw [registered?, hu]
  rfl

@[simp] theorem registered?_error (name : String) (f : Failure) :
    registered? name (.error f) = none := rfl

theorem eraseDups_concat_of_mem {users : List String} {u : String} (h : u ∈ users) :
    (users ++ [u]).eraseDups = users.eraseDups := by
  have hr : [u].removeAll users = [] := by
    rw [List.removeAll, List.filter_eq_nil_iff]
    intro v hv
    rw [List.mem_singleton.mp hv]
    simpa using h
  rw [List.eraseDups_append, hr, List.eraseDups_nil, List.append_nil]

theorem eraseDups_concat_of_not_mem {users : List String} {u : String} (h : u ∉ users) :
    (users ++ [u]).eraseDups = users.eraseDups ++ [u] := by
  have hr : [u].removeAll users = [u] := by
    rw [List.removeAll, List.filter_eq_self]
    intro v hv
    rw [List.mem_singleton.mp hv]
    simpa using h
  rw [List.eraseDups_append, hr, List.eraseDups_cons, List.filter_nil, List.eraseDups_nil]

/-- A user who is registered for the first time goes behind the others; the rest stay where they are. -/
theorem Registers.usernames {t t' : Table} {name : String} {d : Details}
    {result : Except Failure Unit} (hr : Registers t name d result t') {users : List String}
    (h : t.rows.map Row.username = users.eraseDups) :
    t'.rows.map Row.username = (users ++ (registered? name result).toList).eraseDups := by
  cases hr with
  | refused hf =>
    rw [registered?_error, Option.toList_none, List.append_nil]
    exact h
  | blank hu hb =>
    rw [emptyDetails, registered?_error, Option.toList_none, List.append_nil]
    exact h
  | exhausted hu hb hr hid =>
    rw [registered?_error, Option.toList_none, List.append_nil]
    exact h
  | @replaced u row hu hb hr =>
    have hm : u ∈ users := by
      rw [← List.mem_eraseDups, ← h, ← Table.username_of_find? hr]
      exact List.mem_map_of_mem (Table.mem_of_find? hr)
    rw [Table.usernames_replace, h, registered?_ok hu, Option.toList_some, eraseDups_concat_of_mem hm]
  | @added u hu hb hr hid =>
    have hm : u ∉ users := by
      rw [← List.mem_eraseDups, ← h]
      exact Table.find?_eq_none_iff.mp hr
    rw [registered?_ok hu, Option.toList_some, eraseDups_concat_of_not_mem hm, ← h,
      Table.usernames_add]

/-! ## Runs -/

/-- What may be asked of a registry. -/
inductive Call where
  | register (name : String) (d : Details)
  | lookup (username : String)
  | request (r : Http.Request)

/-- What a call is answered. -/
inductive Answer where
  | registration (result : Except Failure Unit)
  | lookup (found : Web.Lookup)
  | response (result : Except Crash Http.Response)

/-- Carries a call out. -/
def perform (db : Database) : Call → Answer × Database
  | .register name d => (.registration (register db name d).result, (register db name d).database)
  | .lookup username => (.lookup (lookup db username), db)
  | .request r =>
    (.response ((Web.plan r).run service db).1.result, ((Web.plan r).run service db).2)

/-- Carries calls out, one after the other. -/
def run (db : Database) : List Call → List Answer × Database
  | [] => ([], db)
  | call :: rest =>
    ((perform db call).1 :: (run (perform db call).2 rest).1, (run (perform db call).2 rest).2)

/-- A request never crashes, and it changes nothing. -/
theorem run_service (p : Web.Plan) (db : Database) :
    p.run service db = (⟨.ok (p.reply (lookup db)).response, (p.reply (lookup db)).log⟩, db) := by
  cases p <;> rfl

theorem perform_request (db : Database) (r : Http.Request) :
    perform db (.request r) = (.response (.ok ((Web.plan r).reply (lookup db)).response), db) := by
  rw [perform, run_service]

/-- The users whom a call with this answer has registered: one, or none. -/
def Call.registers : Call → Answer → List String
  | .register name _, .registration result => (registered? name result).toList
  | _, _ => []

/-- The users whom calls with these answers have registered, in order and with repetitions. -/
def registrations (calls : List Call) (answers : List Answer) : List String :=
  (calls.zip answers).flatMap fun (call, answer) => call.registers answer

/-- The table is sound, and its users are those who have been registered, in the order in which they first
were. -/
structure Keeps (db : Database) (users : List String) (t : Table) : Prop where
  table : db.table = some t
  sound : Sound t
  usernames : t.rows.map Row.username = users.eraseDups

theorem keeps_migrated : Keeps .migrated [] .empty := ⟨rfl, sound_empty, rfl⟩

/-- One call keeps the table in order. -/
theorem Keeps.perform {db : Database} {users : List String} {t : Table} (h : Keeps db users t)
    (call : Call) :
    ∃ t', Keeps (perform db call).2 (users ++ call.registers (perform db call).1) t' := by
  cases call with
  | register name d =>
    obtain ⟨table, applied⟩ := db
    obtain rfl : table = some t := h.table
    obtain ⟨t', hr, hd⟩ := registers h.sound name d applied
    rw [Registry.perform, Call.registers, hd]
    exact ⟨t', rfl, hr.sound h.sound, hr.usernames h.usernames⟩
  | lookup username =>
    show ∃ t', Keeps db (users ++ []) t'
    rw [List.append_nil]
    exact ⟨t, h⟩
  | request r =>
    rw [perform_request]
    show ∃ t', Keeps db (users ++ []) t'
    rw [List.append_nil]
    exact ⟨t, h⟩

/-- A whole run keeps the table in order. -/
theorem Keeps.run {db : Database} {users : List String} {t : Table} (h : Keeps db users t)
    (calls : List Call) :
    ∃ t', Keeps (run db calls).2 (users ++ registrations calls (run db calls).1) t' := by
  induction calls generalizing db users t with
  | nil =>
    rw [Registry.run, registrations, List.zip_nil_left, List.flatMap_nil, List.append_nil]
    exact ⟨t, h⟩
  | cons call rest ih =>
    obtain ⟨t', h'⟩ := h.perform call
    rw [Registry.run, registrations, List.zip_cons_cons, List.flatMap_cons, ← List.append_assoc]
    exact ih h'

/-- Nobody but a user under the canonical username is found. -/
theorem Keeps.lookup_of_not_canonical {db : Database} {users : List String} {t : Table}
    (h : Keeps db users t) {x : String} (hx : Username.canonical x ≠ .ok x) :
    lookup db x = .error (.userNotFound x) := by
  obtain ⟨table, applied⟩ := db
  obtain rfl : table = some t := h.table
  have hr : t.find? x = none := by
    rw [Table.find?_eq_none_iff]
    intro hm
    obtain ⟨row, hrow, rfl⟩ := List.mem_map.mp hm
    exact hx (Username.canonical_of_isCanonical (h.sound.canonical row hrow))
  rw [lookup, find_of_none hr]

theorem mem_registers_iff {call : Call} {answer : Answer} {u : String} :
    u ∈ call.registers answer ↔ ∃ name d, call = .register name d ∧
      answer = .registration (.ok ()) ∧ Username.canonical name = .ok u := by
  constructor
  · intro h
    unfold Call.registers at h
    split at h
    · next name d result =>
      cases result with
      | error f => cases h
      | ok =>
        cases hu : Username.canonical name with
        | error fault =>
          rw [registered?, hu] at h
          cases h
        | ok v =>
          rw [registered?_ok hu, Option.toList_some] at h
          rw [List.mem_singleton.mp h]
          exact ⟨name, d, rfl, rfl, hu⟩
    · cases h
  · rintro ⟨name, d, rfl, rfl, hu⟩
    rw [Call.registers, registered?_ok hu]
    exact List.mem_singleton_self u

theorem mem_registrations_iff {calls : List Call} {answers : List Answer} {u : String} :
    u ∈ registrations calls answers ↔ ∃ name d,
      (.register name d, .registration (.ok ())) ∈ calls.zip answers ∧
        Username.canonical name = .ok u := by
  rw [registrations, List.mem_flatMap]
  constructor
  · rintro ⟨⟨call, answer⟩, hm, h⟩
    obtain ⟨name, d, rfl, rfl, hu⟩ := mem_registers_iff.mp h
    exact ⟨name, d, hm, hu⟩
  · rintro ⟨name, d, hm, hu⟩
    exact ⟨_, hm, mem_registers_iff.mpr ⟨name, d, rfl, rfl, hu⟩⟩

/-- There are as many rows as users. -/
theorem Keeps.length_eq {db : Database} {users : List String} {t : Table} (h : Keeps db users t) :
    t.rows.length = users.toFinset.card := by
  have hsame : (t.rows.map Row.username).toFinset = users.toFinset := by
    ext u
    rw [List.mem_toFinset, List.mem_toFinset, h.usernames, List.mem_eraseDups]
  rw [← hsame, List.toFinset_card_of_nodup h.sound.usernames, List.length_map]

/-- Whatever is asked of a registry, and in whatever order: the usernames in its table are distinct and
canonical, makes and models are there and without blanks around them, ids are positive and increase in
the order in which the users were first registered, and the users are those whose registration
succeeded. So a username picks out one row at most, and no text that is not its own canonical form
is found. -/
theorem table_of_run (calls : List Call) :
    ∃ t, (run .migrated calls).2.table = some t ∧
      (t.rows.map Row.username).Nodup ∧
      (∀ row ∈ t.rows, Username.canonical row.username = .ok row.username) ∧
      (∀ row ∈ t.rows, row.make ≠ "" ∧ row.model ≠ "" ∧
        Text.trimmed row.make = row.make ∧ Text.trimmed row.model = row.model) ∧
      (∀ row ∈ t.rows, 0 < row.id) ∧
      (t.rows.map Row.id).Pairwise (· < ·) ∧
      t.rows.map Row.username = (registrations calls (run .migrated calls).1).eraseDups ∧
      (∀ u, u ∈ t.rows.map Row.username ↔ ∃ name d, (.register name d, .registration (.ok ())) ∈
        calls.zip (run .migrated calls).1 ∧ Username.canonical name = .ok u) ∧
      t.rows.length = (registrations calls (run .migrated calls).1).toFinset.card ∧
      (∀ x, (t.rows.filter fun row => row.username == x).length ≤ 1) ∧
      (∀ x, Username.canonical x ≠ .ok x →
        lookup (run .migrated calls).2 x = .error (.userNotFound x)) := by
  obtain ⟨t, h⟩ := keeps_migrated.run calls
  rw [List.nil_append] at h
  have hs := h.sound
  refine ⟨t, h.table, hs.usernames, ?_, ?_, ?_, hs.numbered.increasing, h.usernames, ?_, h.length_eq,
    Table.length_filter_le_one hs.usernames, fun x => h.lookup_of_not_canonical⟩
  · exact fun row hm => Username.canonical_of_isCanonical (hs.canonical row hm)
  · intro row hm
    have hfilled := not_or.mp (hs.filled row hm)
    have htidy := Details.mk.inj (hs.tidy row hm)
    exact ⟨hfilled.1, hfilled.2, htidy.1, htidy.2⟩
  · exact fun row hm => (hs.numbered.bounds hm).1
  · intro u
    rw [h.usernames, List.mem_eraseDups, mem_registrations_iff]

end Registry

end Garage

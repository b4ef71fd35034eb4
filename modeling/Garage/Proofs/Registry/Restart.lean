import Garage.Program
import Garage.Proofs.Location.Reopening
import Garage.Proofs.Registry.Upkeep
import Garage.Proofs.Web.Views

/-!
# Migrating and starting again

A database is worked on over a connection, and the connection may be closed and opened again, with or
without the migrations that a program applies when it starts. Step by step this comes to the same as
working on the database alone: `Deed.effect` says what each step does to it. So what is recorded as
applied is always what is there, no step up or down fails, and to start once more makes no difference.
-/

namespace Garage.Registry

open Garage.Location (FileTree Place Session isNameable journal)
open Garage.Store (Change Database Migration NewRow Table)

/-! ## Work at a desk -/

/-- A session, and the file tree around it. -/
structure Desk where
  files : FileTree
  session : Session

/-- What may be done at a desk. -/
inductive Deed where
  | work (work : Work)
  /-- The file is closed and opened again. -/
  | reopen
  /-- The file is closed, opened again and migrated, as by a program that starts. -/
  | restart

/-- What came of a deed. -/
inductive Upshot where
  | done (report : Report)
  | opened (result : Except Store.Error Unit)
  /-- There is no file that could be opened again. -/
  | notFiled

namespace Desk

/-- The desk with this database, which is saved. -/
def keep (k : Desk) (db : Database) : Desk :=
  let session := { k.session with database := db }
  ⟨k.files.save session, session⟩

/-- The desk with a file that has been opened; one that could not be opened leaves the old session. -/
def replaced (k : Desk) : Except Store.Error Session × FileTree → Upshot × Desk
  | (.ok session, files) => (.opened (.ok ()), ⟨files, session⟩)
  | (.error e, files) => (.opened (.error e), ⟨files, k.session⟩)

/-- Does a deed at the desk of this path, where changes can be made. -/
def perform (path : String) (k : Desk) : Deed → Upshot × Desk
  | .work w => (.done (w.perform k.session.database).1, k.keep (w.perform k.session.database).2)
  | .reopen =>
    if k.session.place.isSome then k.replaced (k.files.connect path) else (.notFiled, k)
  | .restart =>
    if k.session.place.isSome then k.replaced (k.files.connectMigrated path) else (.notFiled, k)

/-- Does one deed after the other. -/
def run (path : String) (k : Desk) : List Deed → List Upshot × Desk
  | [] => ([], k)
  | deed :: rest =>
    ((k.perform path deed).1 :: ((k.perform path deed).2.run path rest).1,
      ((k.perform path deed).2.run path rest).2)

end Desk

/-! ## Desks that can be kept -/

/-- The path leads to the session's file, which can be written, and nothing stands beside it. -/
structure Filed (path : String) (k : Desk) (p : Place) : Prop where
  place : k.session.place = some p
  opens : k.files.connect path = (.ok k.session, k.files)
  writable : k.session.readOnly = false
  alone : k.files.Alone p
  nameable : isNameable (journal p) = true

/-- The desk is in memory, or its file is there to be opened again; in both cases it can be written. -/
def Kept (path : String) (k : Desk) : Prop :=
  (k.session.place = none ∧ k.session.readOnly = false) ∨ ∃ p, Filed path k p

variable {path : String} {k : Desk}

theorem Filed.keep {p : Place} (h : Filed path k p) (db : Database) :
    Filed path (k.keep db) p := by
  have hfile : (k.files.file? p).isSome = true := by
    rw [FileTree.file?_of_connect h.opens h.place]
    rfl
  have hp : ({ k.session with database := db } : Session).place = some p := h.place
  have hsame := FileTree.samePlaces_save h.alone hp hfile
  exact {
    place := h.place
    opens := hsame.connect h.opens h.place (FileTree.file?_save_self h.alone hp hfile)
    writable := h.writable
    alone := hsame.alone h.alone
    nameable := h.nameable }

theorem Kept.filed (h : Kept path k) (hp : k.session.place.isSome = true) : ∃ p, Filed path k p := by
  rcases h with ⟨h, -⟩ | h
  · rw [h] at hp
    cases hp
  · exact h

theorem Kept.keep (h : Kept path k) (db : Database) :
    Kept path (k.keep db) := by
  rcases h with h | ⟨p, h⟩
  · exact Or.inl h
  · exact Or.inr ⟨p, h.keep db⟩

/-- To start a program leads to the file with all migrations applied. -/
theorem Filed.connectMigrated {p : Place} (h : Filed path k p) :
    ∃ files, k.files.connectMigrated path =
        (.ok { k.session with database := k.session.database.up none }, files) ∧
      Filed path ⟨files, { k.session with database := k.session.database.up none }⟩ p := by
  rw [FileTree.connectMigrated, h.opens]
  dsimp only
  rw [FileTree.migrate_of_alone h.alone h.place h.nameable h.writable]
  refine ⟨_, rfl, ?_⟩
  split
  · next he =>
    rw [Database.up_of_isEmpty he]
    exact h
  · exact h.keep _

/-! ## What a deed does to the database -/

/-- What a deed does to a database, with a file or in memory, and what comes of it. -/
def Deed.effect (filed : Bool) (db : Database) : Deed → Upshot × Database
  | .work w => (.done (w.perform db).1, (w.perform db).2)
  | .reopen => (if filed then .opened (.ok ()) else .notFiled, db)
  | .restart => if filed then (.opened (.ok ()), db.up none) else (.notFiled, db)

/-- At a desk a deed has its effect on the database, and all else stays. -/
theorem Kept.perform (h : Kept path k) (deed : Deed) :
    Kept path (k.perform path deed).2 ∧
      (k.perform path deed).1 = (deed.effect k.session.place.isSome k.session.database).1 ∧
      (k.perform path deed).2.session =
        { k.session with
          database := (deed.effect k.session.place.isSome k.session.database).2 } := by
  cases deed with
  | work w => exact ⟨h.keep _, rfl, rfl⟩
  | reopen =>
    rcases h with ⟨hp, hw⟩ | ⟨p, hf⟩
    · rw [Desk.perform, Deed.effect, hp]
      exact ⟨Or.inl ⟨hp, hw⟩, rfl, rfl⟩
    · rw [Desk.perform, Deed.effect, hf.place, hf.opens]
      exact ⟨Or.inr ⟨p, hf⟩, rfl, rfl⟩
  | restart =>
    rcases h with ⟨hp, hw⟩ | ⟨p, hf⟩
    · rw [Desk.perform, Deed.effect, hp]
      exact ⟨Or.inl ⟨hp, hw⟩, rfl, rfl⟩
    · obtain ⟨files, hc, hf'⟩ := hf.connectMigrated
      rw [Desk.perform, Deed.effect, hf.place, hc]
      exact ⟨Or.inr ⟨p, hf'⟩, rfl, rfl⟩

/-- Deeds on a database alone. -/
def effects (filed : Bool) (db : Database) : List Deed → List Upshot × Database
  | [] => ([], db)
  | deed :: rest =>
    ((deed.effect filed db).1 :: (effects filed (deed.effect filed db).2 rest).1,
      (effects filed (deed.effect filed db).2 rest).2)

theorem Kept.run (h : Kept path k) (deeds : List Deed) :
    Kept path (k.run path deeds).2 ∧
      (k.run path deeds).1 = (effects k.session.place.isSome k.session.database deeds).1 ∧
      (k.run path deeds).2.session =
        { k.session with
          database := (effects k.session.place.isSome k.session.database deeds).2 } := by
  induction deeds generalizing k with
  | nil => exact ⟨h, rfl, rfl⟩
  | cons deed rest ih =>
    obtain ⟨hk, hu, hs⟩ := h.perform deed
    obtain ⟨hk', hu', hs'⟩ := ih hk
    rw [hs] at hu' hs'
    rw [Desk.run, effects]
    exact ⟨hk', by rw [hu, hu'], hs'⟩

/-! ## The programs -/

/-- The server starts with the deed `restart`, and leaves the files as that does. -/
theorem files_serve {p : Place} (h : Filed path k p)
    {arguments : List String} {env : Options.Environment} {o : Options.ServerOptions}
    (ho : Options.ServerOptions.parse arguments env = .ok o) (hpath : o.databasePath = path) :
    (Program.serve arguments env k.files).2 = (k.perform path .restart).2.files := by
  rw [Program.serve, ho]
  dsimp only
  rw [hpath, h.opens, Desk.perform, h.place, FileTree.connectMigrated, h.opens]
  dsimp only
  rcases k.files.migrate k.session with ⟨_ | session, files⟩ <;> rfl

/-- The program that registers a vehicle does so after the deed `restart`. -/
theorem files_register {p : Place} (h : Filed path k p)
    {arguments : List String} {env : Options.Environment} {o : Options.RegisterOptions}
    (ho : Options.RegisterOptions.parse arguments env = .ok o) (hpath : o.databasePath = path) :
    (Program.register arguments env k.files).2 =
      (Program.registerIn (k.perform path .restart).2.session o.username o.details
        (k.perform path .restart).2.files).2 := by
  obtain ⟨files, hc, -⟩ := h.connectMigrated
  have hk : (k.perform path .restart).2 =
      ⟨files, { k.session with database := k.session.database.up none }⟩ := by
    rw [Desk.perform, h.place, hc]
    rfl
  have hmigrate : k.files.migrate k.session =
      (.ok { k.session with database := k.session.database.up none }, files) := by
    rw [FileTree.connectMigrated, h.opens] at hc
    exact hc
  rw [Program.register, ho, hk]
  dsimp only
  rw [hpath, h.opens]
  dsimp only
  rw [hmigrate]
  dsimp only
  rcases Program.registerIn _ o.username o.details files with ⟨r, files'⟩
  dsimp only
  cases r.result <;> rfl

/-! ## The record and the schema -/

theorem schema_effect {db : Database} (h : db.Consistent) (filed : Bool) (deed : Deed) :
    Database.SameSchema db (deed.effect filed db).2 ∨ (deed.effect filed db).2 = .empty ∨
      (deed.effect filed db).2 = .migrated := by
  cases deed with
  | work w => exact schema_perform h w
  | reopen => exact Or.inl (.refl db)
  | restart =>
    cases filed with
    | false => exact Or.inl (.refl db)
    | true => exact schema_perform h (.migrate (.up none))

/-- Whatever is done, what is recorded as applied is what is there. -/
theorem consistent_effect {db : Database} (h : db.Consistent) (filed : Bool) (deed : Deed) :
    (deed.effect filed db).2.Consistent := by
  rcases schema_effect h filed deed with hs | he | he
  · exact h.of_sameSchema hs
  · rw [he]
    exact Database.consistent_empty
  · rw [he]
    exact Database.consistent_migrated

theorem consistent_effects {db : Database} (h : db.Consistent) (filed : Bool) (deeds : List Deed) :
    (effects filed db deeds).2.Consistent := by
  induction deeds generalizing db with
  | nil => exact h
  | cons deed rest ih => exact ih (consistent_effect h filed deed)

/-- A deed makes the table anew: it is `fresh` or `refresh`, or the table's migration is applied by it. -/
def Deed.Creates (before after : Database) (deed : Deed) : Prop :=
  deed = .work (.migrate .fresh) ∨ deed = .work (.migrate .refresh) ∨
    (.createUserVehicles ∉ before.applied ∧ .createUserVehicles ∈ after.applied)

theorem effect_of_creates {db : Database} (h : db.Consistent) {filed : Bool} {deed : Deed}
    (hd : deed.Creates db (deed.effect filed db).2) : (deed.effect filed db).2 = .migrated := by
  rcases hd with rfl | rfl | ⟨hbefore, hafter⟩
  · rfl
  · simp only [Deed.effect, Work.perform, Change.apply, Database.refresh_eq h]
  · rcases schema_effect h filed deed with hs | he | he
    · rw [hs.1] at hafter
      exact absurd hafter hbefore
    · rw [he] at hafter
      cases hafter
    · exact he

/-! ## Starts in between -/

/-- What a program does when it starts, in whole or in part. -/
inductive Deed.Starts : Deed → Prop
  | up (steps : Option Nat) : Starts (.work (.migrate (.up steps)))
  | reopen : Starts .reopen
  | restart : Starts .restart

theorem effect_of_starts {db : Database} (h : db.Consistent)
    (hm : .createUserVehicles ∈ db.applied) {deed : Deed} (hd : deed.Starts) (filed : Bool) :
    (deed.effect filed db).2 = db := by
  cases hd with
  | up steps => exact Database.up_eq_self h hm steps
  | reopen => rfl
  | restart =>
    cases filed with
    | false => rfl
    | true => exact Database.up_eq_self h hm none

/-- The marked deeds are starts in between, each at a point where the table's migration is applied. -/
def Interspersed (path : String) (k : Desk) : List (Deed × Bool) → Prop
  | [] => True
  | (deed, marked) :: rest =>
    (marked = true → deed.Starts ∧ .createUserVehicles ∈ k.session.database.applied) ∧
      Interspersed path (k.perform path deed).2 rest

/-- The deeds without the marked ones. -/
def unmarked (deeds : List (Deed × Bool)) : List Deed :=
  (deeds.filter fun d => !d.2).map Prod.fst

/-- What came of the deeds that are not marked. -/
def unmarkedUpshots (deeds : List (Deed × Bool)) (upshots : List Upshot) : List Upshot :=
  ((deeds.zip upshots).filter fun d => !d.1.2).map Prod.snd

/-- Starts in between change nothing. -/
theorem effects_of_interspersed (h : Kept path k)
    (hc : k.session.database.Consistent) {deeds : List (Deed × Bool)}
    (hi : Interspersed path k deeds) :
    unmarkedUpshots deeds
        (effects k.session.place.isSome k.session.database (deeds.map Prod.fst)).1 =
      (effects k.session.place.isSome k.session.database (unmarked deeds)).1 ∧
    (effects k.session.place.isSome k.session.database (deeds.map Prod.fst)).2 =
      (effects k.session.place.isSome k.session.database (unmarked deeds)).2 := by
  induction deeds generalizing k with
  | nil => exact ⟨rfl, rfl⟩
  | cons head rest ih =>
    obtain ⟨deed, marked⟩ := head
    obtain ⟨hmark, hrest⟩ := hi
    obtain ⟨hk, -, hs⟩ := h.perform deed
    have hnext := ih hk (by rw [hs]; exact consistent_effect hc _ deed) hrest
    rw [hs] at hnext
    cases marked with
    | false =>
      obtain ⟨hu, hd⟩ := hnext
      exact ⟨congrArg _ hu, hd⟩
    | true =>
      -- The start is left out of one run and stays without effect in the other.
      obtain ⟨hstarts, hm⟩ := hmark rfl
      rw [effect_of_starts hc hm hstarts] at hnext
      rw [List.map_cons, effects, effect_of_starts hc hm hstarts]
      exact hnext

/-! ## Desks in order -/

/-- Migrations and openings succeed at this desk, the record is that of the schema, and starts in between
make no difference. -/
structure InOrder (path : String) (k : Desk) : Prop where
  migrates : ∀ change, (k.perform path (.work (.migrate change))).1 = .done (.migrated (.ok ()))
  opens : k.session.place.isSome = true → (k.perform path .reopen).1 = .opened (.ok ()) ∧
    (k.perform path .restart).1 = .opened (.ok ())
  /-- The server starts in this way. -/
  serves : k.session.place.isSome = true → ∀ arguments env o,
    Options.ServerOptions.parse arguments env = .ok o → o.databasePath = path →
    (Program.serve arguments env k.files).2 = (k.perform path .restart).2.files
  /-- The program that registers a vehicle starts in this way. -/
  registers : k.session.place.isSome = true → ∀ arguments env o,
    Options.RegisterOptions.parse arguments env = .ok o → o.databasePath = path →
    (Program.register arguments env k.files).2 =
      (Program.registerIn (k.perform path .restart).2.session o.username o.details
        (k.perform path .restart).2.files).2
  recorded : k.session.database.table.isSome = true ↔
    .createUserVehicles ∈ k.session.database.applied
  complete : k.session.database.applied ++ k.session.database.pending = Migration.all
  disjoint : ∀ m ∈ k.session.database.applied, m ∉ k.session.database.pending
  /-- Without a table no user is found. -/
  lookups : k.session.database.table = none → ∀ u,
    (k.perform path (.work (.call (.lookup u)))).1 =
      .done (.answered (.lookup (.error (.database (.query Store.noTable)))))
  /-- Without a table no user is registered whose name and details are in order. -/
  registrations : k.session.database.table = none → ∀ name d u,
    Username.canonical name = .ok u → ¬ d.trimmed.IsBlank →
    (k.perform path (.work (.call (.register name d)))).1 =
      .done (.answered (.registration (.error (.database (.query Store.noTable)))))
  /-- Without a table a request for the vehicle of a user is answered that the fault lies with the server. -/
  requests : k.session.database.table = none → ∀ r u, Web.AsksFor r u →
    ∃ response, (k.perform path (.work (.call (.request r)))).1 =
      .done (.answered (.response (.ok response))) ∧ response.status = 500
  /-- A table that is made anew is empty, and its ids start from one. -/
  created : ∀ deed : Deed,
    deed.Creates k.session.database (k.perform path deed).2.session.database →
    ∃ t, (k.perform path deed).2.session.database.table = some t ∧ t.rows = [] ∧ t.nextId = 1
  /-- Starts in between change no other answer, and nothing in the end. -/
  transparent : ∀ deeds, Interspersed path k deeds →
    unmarkedUpshots deeds (k.run path (deeds.map Prod.fst)).1 = (k.run path (unmarked deeds)).1 ∧
    (k.run path (deeds.map Prod.fst)).2.session = (k.run path (unmarked deeds)).2.session

theorem Kept.inOrder (h : Kept path k)
    (hc : k.session.database.Consistent) : InOrder path k where
  migrates change := by
    obtain ⟨db', ha, -⟩ := Database.exists_apply hc change
    rw [Desk.perform, Work.perform, ha]
  opens hp := by
    have hreopen := (h.perform .reopen).2.1
    have hrestart := (h.perform .restart).2.1
    rw [hp] at hreopen hrestart
    exact ⟨hreopen, hrestart⟩
  serves hp arguments env o ho hpath := by
    obtain ⟨p, hf⟩ := h.filed hp
    exact files_serve hf ho hpath
  registers hp arguments env o ho hpath := by
    obtain ⟨p, hf⟩ := h.filed hp
    exact files_register hf ho hpath
  recorded := Database.table_of_consistent hc
  complete := Database.applied_append_pending hc
  disjoint _ hm := Database.not_mem_pending hm
  lookups ht u := by
    rw [Desk.perform, Work.perform, Registry.perform, lookup_of_absent ht]
  registrations ht name d u hu hb := by
    rw [Desk.perform, Work.perform, Registry.perform, register_eq_write hu hb, write_of_absent ht]
  requests ht r u hr := by
    refine ⟨((Web.plan r).reply (lookup k.session.database)).response, ?_, ?_⟩
    · rw [Desk.perform, Work.perform, perform_request]
    · exact Web.status_reply_of_error hr (lookup_of_absent ht u)
  created deed hd := by
    have hs := (h.perform deed).2.2
    rw [hs] at hd ⊢
    have he : (deed.effect k.session.place.isSome k.session.database).2 = .migrated :=
      effect_of_creates hc hd
    exact ⟨.empty, by rw [he]; rfl, rfl, rfl⟩
  transparent deeds hi := by
    obtain ⟨hu, hd⟩ := effects_of_interspersed h hc hi
    obtain ⟨-, hall, hsall⟩ := h.run (deeds.map Prod.fst)
    obtain ⟨-, hown, hsown⟩ := h.run (unmarked deeds)
    rw [hall, hown, hsall, hsown, hd]
    exact ⟨hu, rfl⟩

/-- From an empty database on, and whatever is done in whatever order, every desk that this leads to is in
order. -/
theorem inOrder_run (h : Kept path k)
    (hnew : k.session.database = .empty) (deeds : List Deed) :
    InOrder path (k.run path deeds).2 := by
  obtain ⟨hk, -, hs⟩ := h.run deeds
  refine hk.inOrder ?_
  rw [hs, hnew]
  exact consistent_effects Database.consistent_empty _ deeds

/-- A file without content in the working directory, in which a program registers a vehicle and is started
again. -/
theorem inOrder_run_of_file :
    ∃ k : Desk, Kept "garage.db" k ∧ k.session.place = some ["home", "garage.db"] ∧
      k.session.database = .empty ∧
      InOrder "garage.db" (k.run "garage.db"
        [.restart, .work (.call (.register "SBoot" ⟨"Honda", "Civic"⟩)), .restart]).2 := by
  let files : FileTree := ⟨["home"], [["home"]], [(["home", "garage.db"], .empty)]⟩
  let session : Session := ⟨some ["home", "garage.db"], .empty, false, false, .shared, false⟩
  have hsession : (files.connect "garage.db").1.toOption = some session := by decide +kernel
  have hfiles : (files.connect "garage.db").2 = files := by decide +kernel
  have hopens : files.connect "garage.db" = (.ok session, files) := by
    rcases hc : files.connect "garage.db" with ⟨_ | s, t⟩ <;> rw [hc] at hsession hfiles
    · cases hsession
    · rw [← Option.some.inj hsession, ← hfiles]
  have hkept : Kept "garage.db" ⟨files, session⟩ := Or.inr ⟨["home", "garage.db"], {
    place := rfl
    opens := hopens
    writable := rfl
    alone := ⟨by decide +kernel, by decide +kernel, by decide +kernel⟩
    nameable := by decide +kernel }⟩
  exact ⟨⟨files, session⟩, hkept, rfl, rfl, inOrder_run hkept rfl _⟩

end Garage.Registry

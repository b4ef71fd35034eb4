import Garage.Proofs.Location.Naming
import Garage.Proofs.Registry.OneRow
import Garage.Proofs.Registry.Restart

/-!
# Visits to files

Programs visit files one after the other: each opens the database at a path, brings it up to date, works on
it and leaves. A visit finds what the visits before it have left in the file that its path names, and
nothing of what was done in other files; and what it does stays in that file.
-/

namespace Garage.Registry

open Garage.Location (FileTree Place Session TakenAsIs Verbatim besides)
open Garage.Location.FileTree (SameBut SameDirectories)
open Garage.Store (Database Table)

/-- What is done over one connection to the database at a path, which is brought up to date first. -/
structure Visit where
  path : String
  deeds : List Deed

/-- What comes of a visit, and the tree that it leaves. -/
def Visit.perform (t : FileTree) (v : Visit) : Except Store.Error (List Upshot) × FileTree :=
  match t.connectMigrated v.path with
  | (.error e, t) => (.error e, t)
  | (.ok session, t) =>
    (.ok (Desk.run v.path ⟨t, session⟩ v.deeds).1, (Desk.run v.path ⟨t, session⟩ v.deeds).2.files)

/-- The tree that visits leave, one after the other. -/
def afterVisits (t : FileTree) (visits : List Visit) : FileTree :=
  visits.foldl (fun t v => (v.perform t).2) t

/-- What a visit does to a database alone. -/
def Visit.outcome (v : Visit) (db : Database) : List Upshot × Database :=
  effects true (db.up none) v.deeds

/-- What visits make of a file, which the first of them creates if it is not there. -/
def worked (held : Option Database) (visits : List Visit) : Option Database :=
  visits.foldl (fun held v => some (v.outcome (held.getD .empty)).2) held

/-- The visits through paths that name this place. -/
def visitsTo (t : FileTree) (p : Place) (visits : List Visit) : List Visit :=
  visits.filter fun v => t.named? v.path == some p

/-- This place is not one that the engine uses beside a file that is visited. -/
def Clear (t : FileTree) (visits : List Visit) (q : Place) : Prop :=
  ∀ v ∈ visits, ∀ p, t.named? v.path = some p → q ∉ besides p

variable {t t' : FileTree} {path : String} {p q : Place} {db : Database} {visits : List Visit}

/-! ## One visit -/

/-- The path leads to this database, in the file that it names. -/
structure Seated (t : FileTree) (path : String) (p : Place) (db : Database) : Prop where
  sound : t.Sound
  admits : t.Admits path p
  file : t.file? p = some db

theorem Seated.of_sameBut {db' : Database} (h : Seated t path p db)
    (hs : SameBut (p :: besides p) t t') (hf : t'.file? p = some db') : Seated t' path p db' :=
  ⟨hs.sound h.sound h.admits, hs.toSameDirectories.admits h.admits, hf⟩

/-- A deed has its effect on the database in the file, and all else stays but what is beside it. -/
theorem Seated.perform (h : Seated t path p db) (deed : Deed) :
    ∃ t', Desk.perform path ⟨t, .plain p db⟩ deed =
        ((deed.effect true db).1, ⟨t', .plain p (deed.effect true db).2⟩) ∧
      Seated t' path p (deed.effect true db).2 ∧ SameBut (p :: besides p) t t' := by
  have hheld : t.held p = db := by rw [FileTree.held, h.file, Option.getD_some]
  cases deed with
  | work w =>
    have hs := FileTree.sameBut_save t p (w.perform db).2
    exact ⟨_, rfl, h.of_sameBut hs (FileTree.file?_save h.admits.names.ne_nil t _), hs⟩
  | reopen =>
    have hfile : t.withFile p = t := by rw [FileTree.withFile, h.file, Option.isSome_some, if_pos rfl]
    have hc := FileTree.connect_of_admits h.sound h.admits
    rw [hheld, hfile] at hc
    refine ⟨t, ?_, h, .refl _ t⟩
    show Desk.replaced _ (t.connect path) = _
    rw [hc]
    rfl
  | restart =>
    obtain ⟨t', hc, hf, hs⟩ := FileTree.connectMigrated_of_admits h.sound h.admits
    rw [hheld] at hc hf
    refine ⟨t', ?_, h.of_sameBut hs hf, hs⟩
    show Desk.replaced _ (t.connectMigrated path) = _
    rw [hc]
    rfl

theorem Seated.run (h : Seated t path p db) (deeds : List Deed) :
    ∃ t', Desk.run path ⟨t, .plain p db⟩ deeds =
        ((effects true db deeds).1, ⟨t', .plain p (effects true db deeds).2⟩) ∧
      Seated t' path p (effects true db deeds).2 ∧ SameBut (p :: besides p) t t' := by
  induction deeds generalizing t db with
  | nil => exact ⟨t, rfl, h, .refl _ t⟩
  | cons deed rest ih =>
    obtain ⟨t₁, hp, h₁, hs₁⟩ := h.perform deed
    obtain ⟨t₂, hr, h₂, hs₂⟩ := ih h₁
    refine ⟨t₂, ?_, h₂, hs₁.trans hs₂⟩
    rw [Desk.run, hp]
    dsimp only
    rw [hr]
    rfl

/-- A visit through an admitted path succeeds, and works on the file that the path names. -/
theorem Visit.perform_of_admits {v : Visit} (ht : t.Sound) (h : t.Admits v.path p) :
    ∃ t', v.perform t = (.ok (v.outcome (t.held p)).1, t') ∧ t'.Sound ∧
      t'.file? p = some (v.outcome (t.held p)).2 ∧ SameBut (p :: besides p) t t' := by
  obtain ⟨t₁, hc, hf, hs₁⟩ := FileTree.connectMigrated_of_admits ht h
  have hseat : Seated t₁ v.path p ((t.held p).up none) :=
    ⟨hs₁.sound ht h, hs₁.toSameDirectories.admits h, hf⟩
  obtain ⟨t₂, hr, h₂, hs₂⟩ := hseat.run v.deeds
  refine ⟨t₂, ?_, h₂.sound, h₂.file, hs₁.trans hs₂⟩
  rw [Visit.perform, hc]
  dsimp only
  rw [hr]
  rfl

/-! ## One visit after the other -/

theorem visitsTo_cons_of_eq {v : Visit} (h : t.named? v.path = some q) :
    visitsTo t q (v :: visits) = v :: visitsTo t q visits :=
  List.filter_cons_of_pos (beq_iff_eq.mpr h)

theorem visitsTo_cons_of_ne {v : Visit} (h : t.named? v.path ≠ some q) :
    visitsTo t q (v :: visits) = visitsTo t q visits :=
  List.filter_cons_of_neg fun he => h (beq_iff_eq.mp he)

/-- What is in a file after visits was there before, or the visits to this file have put it there. -/
theorem file?_afterVisits (ht : t.Sound) (h : ∀ v ∈ visits, ∃ p, t.Admits v.path p) :
    (afterVisits t visits).Sound ∧ SameDirectories t (afterVisits t visits) ∧
      ∀ q, Clear t visits q →
        (afterVisits t visits).file? q = worked (t.file? q) (visitsTo t q visits) := by
  induction visits generalizing t with
  | nil => exact ⟨ht, .refl t, fun _ _ => rfl⟩
  | cons v rest ih =>
    -- The first visit changes files only, so the others are admitted, and name the same places, in its tree.
    obtain ⟨p, hp⟩ := h v List.mem_cons_self
    obtain ⟨t₁, hv, ht₁, hf, hs⟩ := Visit.perform_of_admits ht hp
    have hnamed := hs.toSameDirectories.named?
    obtain ⟨hsound, hsame, hfiles⟩ := ih ht₁ fun w hw => by
      obtain ⟨r, hr⟩ := h w (List.mem_cons_of_mem v hw)
      exact ⟨r, hs.toSameDirectories.admits hr⟩
    have hafter : afterVisits t (v :: rest) = afterVisits t₁ rest := by
      rw [afterVisits, List.foldl_cons, hv, afterVisits]
    rw [hafter]
    refine ⟨hsound, hs.toSameDirectories.trans hsame, fun q hq => ?_⟩
    have hrest : Clear t₁ rest q := by
      rw [Clear, hnamed]
      exact fun w hw => hq w (List.mem_cons_of_mem v hw)
    have hvisits : visitsTo t₁ q rest = visitsTo t q rest := by
      rw [visitsTo, hnamed, visitsTo]
    rw [hfiles q hrest, hvisits]
    by_cases he : p = q
    · obtain rfl := he
      rw [visitsTo_cons_of_eq hp.names.leads, hf]
      rfl
    · have hnot : q ∉ p :: besides p := by
        rw [List.mem_cons, not_or]
        exact ⟨Ne.symm he, hq v List.mem_cons_self p hp.names.leads⟩
      have hne : t.named? v.path ≠ some q := by
        rw [hp.names.leads]
        exact fun hpq => he (Option.some.inj hpq)
      rw [visitsTo_cons_of_ne hne, hs.files q hnot]

/-- A visit finds what the visits before it to the same file have left there. -/
theorem perform_afterVisits (ht : t.Sound) (h : ∀ v ∈ visits, ∃ p, t.Admits v.path p) {v : Visit}
    (hv : t.Admits v.path p) (hp : Clear t visits p) :
    (v.perform (afterVisits t visits)).1 =
      .ok (v.outcome ((worked (t.file? p) (visitsTo t p visits)).getD .empty)).1 := by
  obtain ⟨hsound, hsame, hfiles⟩ := file?_afterVisits ht h
  obtain ⟨t', hperform, -⟩ := Visit.perform_of_admits hsound (hsame.admits hv)
  rw [hperform, FileTree.held, hfiles p hp]

/-! ## What is registered through one path, and looked up through another -/

/-- A visit in which a vehicle is registered. -/
def Visit.registering (path name : String) (d : Details) : Visit :=
  ⟨path, [.work (.call (.register name d))]⟩

/-- A visit in which the vehicle of a user is looked up. -/
def Visit.lookingUp (path username : String) : Visit :=
  ⟨path, [.work (.call (.lookup username))]⟩

variable {name u : String} {d : Details}

theorem effects_call (db : Database) (call : Call) :
    effects true db [.work (.call call)] =
      ([.done (.answered (Registry.perform db call).1)], (Registry.perform db call).2) := rfl

theorem outcome_registering (path name : String) (d : Details) (db : Database) :
    (Visit.registering path name d).outcome db =
      ([.done (.answered (.registration (register (db.up none) name d).result))],
        (register (db.up none) name d).database) := by
  rw [Visit.outcome, Visit.registering, effects_call, Registry.perform]

theorem outcome_lookingUp (path u : String) (db : Database) :
    (Visit.lookingUp path u).outcome db =
      ([.done (.answered (.lookup (lookup (db.up none) u)))], db.up none) := by
  rw [Visit.outcome, Visit.lookingUp, effects_call, Registry.perform]

theorem up_register (db : Database) (name : String) (d : Details) :
    (register (db.up none) name d).database.up none = (register (db.up none) name d).database := by
  have hp : (register (db.up none) name d).database.pending = (db.up none).pending := by
    rw [Database.pending, (sameSchema_register (db.up none) name d).1, Database.pending]
  rw [Database.up_of_isEmpty]
  rw [hp, Database.pending_up]
  rfl

/-- What has been registered through one path is found through another that names the same file, and makes
no difference to what is found in any other file. -/
theorem perform_lookingUp {a b : String} (ht : t.Sound) (ha : t.Admits a p) (hb : t.Admits b q)
    (hq : q ∉ besides p) (hu : Username.canonical name = .ok u)
    (hok : ((Visit.registering a name d).perform t).1 =
      .ok [.done (.answered (.registration (.ok ())))]) :
    ((Visit.lookingUp b u).perform ((Visit.registering a name d).perform t).2).1 =
      if p = q then .ok [.done (.answered (.lookup (.ok d.trimmed)))]
      else ((Visit.lookingUp b u).perform t).1 := by
  obtain ⟨t₁, hv, ht₁, hf, hs⟩ :=
    Visit.perform_of_admits (v := Visit.registering a name d) ht ha
  obtain ⟨t₂, hw, -⟩ :=
    Visit.perform_of_admits (v := Visit.lookingUp b u) ht₁ (hs.toSameDirectories.admits hb)
  obtain ⟨t₃, hw', -⟩ := Visit.perform_of_admits (v := Visit.lookingUp b u) ht hb
  rw [outcome_registering] at hf
  rw [hv] at hok ⊢
  rw [outcome_registering] at hok
  dsimp only at hok ⊢
  have hresult : (register ((t.held p).up none) name d).result = .ok () :=
    Answer.registration.inj (Report.answered.inj (Upshot.done.inj
      (List.singleton_injective (Except.ok.inj hok))))
  rw [hw, hw', outcome_lookingUp, outcome_lookingUp]
  split
  · next he =>
    subst he
    rw [FileTree.held, hf, Option.getD_some, up_register, lookup_register_of_ok hu hresult]
  · next hne =>
    have hnot : q ∉ p :: besides p := by
      rw [List.mem_cons, not_or]
      exact ⟨Ne.symm hne, hq⟩
    rw [FileTree.held, hs.files q hnot, FileTree.held]

/-! ## All visits -/

/-- A path is taken as it is exactly if nothing in it means anything to those who read it; in the working
directory the file that is named is opened exactly for such a path. Where a path is taken as it is, the file
that it names is opened or created, and visits share what is in it with visits through paths that name it,
and with no others. Left out are files that stand where another visited file has its `-journal`, `-wal` or
`-shm`: the engine takes such a file for its own, and may remove it. -/
theorem visits_reach_the_file_named (ht : t.Sound) :
    (∀ path, TakenAsIs path ↔ Verbatim path) ∧
    (∀ name, t.Names name (t.workingDirectory ++ [name]) → t.Room (t.workingDirectory ++ [name]) →
      ((∃ s t', t.connect name = (.ok s, t') ∧ s.place = some (t.workingDirectory ++ [name])) ↔
        Verbatim name)) ∧
    (∀ path p, t.Admits path p → ∃ t',
      t.connectMigrated path = (.ok (.plain p ((t.held p).up none)), t') ∧
        t'.file? p = some ((t.held p).up none) ∧ SameBut (p :: besides p) t t') ∧
    (∀ visits : List Visit, (∀ v ∈ visits, ∃ p, t.Admits v.path p) →
      (∀ q, Clear t visits q →
        (afterVisits t visits).file? q = worked (t.file? q) (visitsTo t q visits)) ∧
      ∀ (v : Visit) (p : Place), t.Admits v.path p → Clear t visits p →
        (v.perform (afterVisits t visits)).1 =
          .ok (v.outcome ((worked (t.file? p) (visitsTo t p visits)).getD .empty)).1) ∧
    ∀ a b p q, t.Admits a p → t.Admits b q → q ∉ besides p →
      ∀ name d u, Username.canonical name = .ok u →
        ((Visit.registering a name d).perform t).1 =
          .ok [.done (.answered (.registration (.ok ())))] →
        ((Visit.lookingUp b u).perform ((Visit.registering a name d).perform t).2).1 =
          if p = q then .ok [.done (.answered (.lookup (.ok d.trimmed)))]
          else ((Visit.lookingUp b u).perform t).1 := by
  refine ⟨fun path => Location.takenAsIs_iff, fun name hn hr => FileTree.connect_reaches_iff ht hn hr,
    fun path p h => FileTree.connectMigrated_of_admits ht h,
    fun visits h => ⟨(file?_afterVisits ht h).2.2, fun v p hv hp => perform_afterVisits ht h hv hp⟩,
    fun a b p q ha hb hq name d u hu hok => perform_lookingUp ht ha hb hq hu hok⟩

/-- Two paths name one file, and a third one names another. -/
theorem visits_reach_the_file_named_of_two_paths :
    (FileTree.ofDirectories ["home"] []).Sound ∧
    ((Visit.lookingUp "./garage.db" "sboot").perform
      ((Visit.registering "garage.db" "SBoot" ⟨"Honda", "Civic"⟩).perform
        (FileTree.ofDirectories ["home"] [])).2).1 =
      .ok [.done (.answered (.lookup (.ok ⟨"Honda", "Civic"⟩)))] ∧
    ((Visit.lookingUp "other.db" "sboot").perform
      ((Visit.registering "garage.db" "SBoot" ⟨"Honda", "Civic"⟩).perform
        (FileTree.ofDirectories ["home"] [])).2).1 =
      .ok [.done (.answered (.lookup (.error (.userNotFound "sboot"))))] := by
  let t := FileTree.ofDirectories ["home"] []
  have ht : t.Sound := fun _ h => nomatch h
  have hgarage : t.Admits "garage.db" ["home", "garage.db"] := by decide +kernel
  have hagain : t.Admits "./garage.db" ["home", "garage.db"] := by decide +kernel
  have hother : t.Admits "other.db" ["home", "other.db"] := by decide +kernel
  have hname : Username.canonical "SBoot" = .ok "sboot" := by decide +kernel
  have hresult : (register .migrated "SBoot" ⟨"Honda", "Civic"⟩).result = .ok () := by
    decide +kernel
  have hdetails : Details.trimmed ⟨"Honda", "Civic"⟩ = ⟨"Honda", "Civic"⟩ := by decide +kernel
  obtain ⟨-, -, -, hruns, hmeet⟩ := visits_reach_the_file_named ht
  have hfirst (v : Visit) (p : Place) (hv : t.Admits v.path p) :
      (v.perform t).1 = .ok (v.outcome .empty).1 :=
    (hruns [] fun _ h => nomatch h).2 v p hv fun _ h => nomatch h
  have hok : ((Visit.registering "garage.db" "SBoot" ⟨"Honda", "Civic"⟩).perform t).1 =
      .ok [.done (.answered (.registration (.ok ())))] := by
    rw [hfirst _ _ hgarage, outcome_registering, ← hresult]
    rfl
  refine ⟨ht, ?_, ?_⟩
  · rw [hmeet _ _ _ _ hgarage hagain (by decide +kernel) _ _ _ hname hok, if_pos rfl,
      hdetails]
  · rw [hmeet _ _ _ _ hgarage hother (by decide +kernel) _ _ _ hname hok, if_neg (by decide),
      hfirst _ _ hother, outcome_lookingUp]
    rfl

/-- An escape in a path is decoded: the file that the path names is not created, but another one. -/
theorem connectMigrated_of_escape :
    let t := FileTree.ofDirectories ["home"] []
    t.Names "a%20b" ["home", "a%20b"] ∧ t.Room ["home", "a%20b"] ∧
      (t.connectMigrated "a%20b").1.isOk = true ∧
      (t.connectMigrated "a%20b").2.file? ["home", "a%20b"] = none ∧
      (t.connectMigrated "a%20b").2.file? ["home", "a b"] = some .migrated := by
  decide +kernel

end Garage.Registry

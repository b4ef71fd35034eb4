import Garage.Location.Session
import Garage.Proofs.Store.Schema

/-!
# Opening a file again

Where a path leads depends on which places are taken, and not on what the files there hold. So a path that
has led to a file still leads there when a session has been saved, and opening it again gives the
database that was saved. With nothing beside the file there is nothing to settle.
-/

namespace Garage.Location

open Garage.Store (Database Error)

/-! ## Places beside a file -/

theorem beside_concat (p : Place) (name suffix : String) :
    beside (p ++ [name]) suffix = p ++ [name ++ suffix] := by
  rw [beside, List.dropLast_concat, List.getLast?_concat]
  rfl

/-- A name that has room for more at its end has room for less. -/
theorem isNameable_beside {p : Place} {suffix suffix' : String}
    (hs : suffix'.utf8ByteSize ≤ suffix.utf8ByteSize) (h : isNameable (beside p suffix) = true) :
    isNameable (beside p suffix') = true := by
  rcases List.eq_nil_or_concat p with rfl | ⟨q, name, rfl⟩
  · rfl
  · rw [List.concat_eq_append] at h ⊢
    rw [beside_concat, isNameable, List.getLast?_concat, Option.all_some, decide_eq_true_eq,
      String.utf8ByteSize_append] at h ⊢
    omega

/-! ## Files put and removed -/

namespace FileTree

theorem lookup_filter_of_ne {files : List (Place × Database)} {p q : Place} (h : q ≠ p) :
    (files.filter fun f => !(f.1 == p)).lookup q = files.lookup q := by
  induction files with
  | nil => rfl
  | cons f files ih =>
    obtain ⟨r, db⟩ := f
    by_cases hr : r = p
    · have hq : (q == r) = false := beq_false_of_ne (hr ▸ h)
      rw [List.filter_cons_of_neg (by simp [hr]), ih, List.lookup_cons, hq]
    · rw [List.filter_cons_of_pos (by simp [hr]), List.lookup_cons, List.lookup_cons, ih]

theorem file?_put_of_ne (t : FileTree) {p q : Place} (h : q ≠ p) (db : Database) :
    (t.put p db).file? q = t.file? q := by
  have hq : (q == p) = false := beq_false_of_ne h
  rw [file?, put, List.lookup_cons, hq, lookup_filter_of_ne h, file?]

theorem file?_remove_of_ne (t : FileTree) {p q : Place} (h : q ≠ p) :
    (t.remove p).file? q = t.file? q :=
  lookup_filter_of_ne h

/-! ## Trees in which the same places are taken -/

/-- The same places are taken in both trees, each by a directory or by a file as in the other. -/
structure SamePlaces (t t' : FileTree) : Prop where
  workingDirectory : t'.workingDirectory = t.workingDirectory
  directories : t'.directories = t.directories
  files : ∀ p, (t'.file? p).isSome = (t.file? p).isSome

variable {t t' : FileTree}

theorem SamePlaces.isDirectory (h : SamePlaces t t') : t'.isDirectory = t.isDirectory := by
  funext p
  rw [FileTree.isDirectory, h.directories, FileTree.isDirectory]

theorem SamePlaces.contains (h : SamePlaces t t') : t'.contains = t.contains := by
  funext p
  rw [FileTree.contains, h.isDirectory, h.files, FileTree.contains]

/-- A name leads to the same place in both. -/
theorem SamePlaces.resolve? (h : SamePlaces t t') : t'.resolve? = t.resolve? := by
  have hwalk : t'.walk = t.walk := by
    funext p element
    rw [walk, h.files, walk]
  funext name
  rw [FileTree.resolve?, hwalk, h.workingDirectory, FileTree.resolve?]

/-! ## Opening -/

variable {path : String} {source : Source} {locking : Locking} {p : Place} {s : Session}
  {db : Database}

/-- A file is opened for what it holds, if opening it has created nothing. -/
theorem file?_of_openPlace (h : t.openPlace source locking p = (.ok s, t)) :
    s.place = some p ∧ t.file? p = some s.database := by
  unfold openPlace at h
  dsimp only at h
  split at h
  · cases h
  split at h
  · cases h
  split at h
  · cases h
  split at h
  · next db hf =>
    cases (Prod.mk.inj h).1
    exact ⟨rfl, hf⟩
  · next hf =>
    split at h
    · have hput : t.put p .empty = t := (Prod.mk.inj h).2
      have hself := file?_put_self t p .empty
      rw [hput, hf] at hself
      cases hself
    · cases h

theorem SamePlaces.openPlace (h : SamePlaces t t')
    (ho : t.openPlace source locking p = (.ok s, t)) (hf : t'.file? p = some db) :
    t'.openPlace source locking p = (.ok { s with database := db }, t') := by
  have hfile := (file?_of_openPlace ho).2
  unfold FileTree.openPlace at ho ⊢
  rw [h.resolve?, h.contains, h.isDirectory, hf]
  rw [hfile] at ho
  dsimp only at ho ⊢
  split at ho
  · cases ho
  next hplace =>
  split at ho
  · cases ho
  next hpermissions =>
  split at ho
  · cases ho
  next hdirectory =>
  rw [if_neg hplace, if_neg hpermissions, if_neg hdirectory]
  rw [← Except.ok.inj (Prod.mk.inj ho).1]

/-- A session with a file is that of the place where the source's name leads, in this tree and in any other
in which names lead to the same places. -/
theorem openPlace_of_openSource (h : t.openSource source = (.ok s, t)) (hp : s.place = some p) :
    ∃ locking, t.openPlace source locking p = (.ok s, t) ∧
      ∀ t' : FileTree, t'.resolve? = t.resolve? →
        t'.openSource source = t'.openPlace source locking p := by
  have hopen := h
  unfold openSource at hopen
  dsimp only at hopen
  split at hopen
  · cases (Prod.mk.inj hopen).1
    cases hp
  next hname =>
  split at hopen
  · split at hopen
    · cases hopen
    · cases (Prod.mk.inj hopen).1
      cases hp
  next locking hlayer =>
  split at hopen
  · cases hopen
  next q hq =>
  obtain rfl : q = p := Option.some.inj ((file?_of_openPlace hopen).1.symm.trans hp)
  refine ⟨locking, hopen, fun t' hr => ?_⟩
  rw [openSource]
  dsimp only
  rw [if_neg hname, hlayer, hr, hq]

theorem openSource_of_connect (h : t.connect path = (.ok s, t)) :
    ∃ source, sourceOf path = .ok source ∧ t.openSource source = (.ok s, t) := by
  unfold connect at h
  split at h
  · cases h
  next source hs =>
  refine ⟨source, hs, ?_⟩
  rcases ho : t.openSource source with ⟨_ | s', t'⟩ <;> rw [ho] at h <;> cases h
  rfl

theorem connect_of_openSource (hs : sourceOf path = .ok source)
    (ho : t.openSource source = (.ok s, t)) : t.connect path = (.ok s, t) := by
  rw [connect, hs]
  dsimp only
  rw [ho]
  rfl

theorem file?_of_connect (h : t.connect path = (.ok s, t)) (hp : s.place = some p) :
    t.file? p = some s.database := by
  obtain ⟨source, -, ho⟩ := openSource_of_connect h
  obtain ⟨locking, hopen, -⟩ := openPlace_of_openSource ho hp
  exact (file?_of_openPlace hopen).2

/-- A path that leads to a file leads there as long as the same places are taken. -/
theorem SamePlaces.connect (h : SamePlaces t t') (hc : t.connect path = (.ok s, t))
    (hp : s.place = some p) (hf : t'.file? p = some db) :
    t'.connect path = (.ok { s with database := db }, t') := by
  obtain ⟨source, hs, ho⟩ := openSource_of_connect hc
  obtain ⟨locking, hopen, hleads⟩ := openPlace_of_openSource ho hp
  exact connect_of_openSource hs ((hleads t' h.resolve?).trans (h.openPlace hopen hf))

/-! ## A file with nothing beside it -/

/-- Nothing stands beside the file at a place. -/
structure Alone (t : FileTree) (p : Place) : Prop where
  journal : t.contains (journal p) = false
  writeAhead : t.contains (writeAhead p) = false
  lockDirectory : t.contains (lockDirectory p) = false

theorem SamePlaces.alone (h : SamePlaces t t') (ha : t.Alone p) : t'.Alone p := by
  obtain ⟨hj, hw, hl⟩ := ha
  rw [← h.contains] at hj hw hl
  exact ⟨hj, hw, hl⟩

theorem file?_eq_none_of_contains (h : t.contains p = false) : t.file? p = none := by
  rw [FileTree.contains, Bool.or_eq_false_iff] at h
  exact Option.isNone_iff_eq_none.mp (Option.isSome_eq_false_iff.mp h.2)

theorem isUsed_of_contains (h : t.contains p = false) : t.isUsed p = false := by
  have hf := file?_eq_none_of_contains h
  rw [FileTree.contains, Bool.or_eq_false_iff] at h
  rw [isUsed, h.1, hf]
  rfl

theorem settle_of_alone (ha : t.Alone p) (hp : s.place = some p)
    (hn : isNameable (Location.journal p) = true) : t.settle s = .ok t := by
  have hlock : isNameable (Location.lockDirectory p) = true := isNameable_beside (by decide) hn
  have hj : t.settleJournal s p = .ok t := by
    rw [settleJournal, isUsed_of_contains ha.journal]
    rfl
  have hw : t.settleWriteAhead s p = .ok t := by
    rw [settleWriteAhead, isUsed_of_contains ha.writeAhead]
    rfl
  rw [settle, hp]
  dsimp only
  rw [ha.lockDirectory, hlock, hj]
  simp only [Bool.and_false, Bool.not_true, Bool.false_eq_true, if_false]
  split
  · rfl
  · exact hw

/-- Migrating a file with nothing beside it succeeds, and what has changed is saved. -/
theorem migrate_of_alone (ha : t.Alone p) (hp : s.place = some p)
    (hn : isNameable (Location.journal p) = true) (hw : s.readOnly = false) :
    t.migrate s = (.ok { s with database := s.database.up none },
      if s.database.pending.isEmpty then t else t.save { s with database := s.database.up none }) := by
  have hj := (Bool.or_eq_false_iff.mp ha.journal).1
  rw [migrate, settle_of_alone ha hp hn]
  dsimp only
  split
  · next he => rw [Database.up_of_isEmpty he]
  · rw [hw, hp, Option.all_some, canJournal, hn, hj]
    rfl

/-! ## Saving -/

theorem file?_save_self (ha : t.Alone p) (hp : s.place = some p) (hf : (t.file? p).isSome = true) :
    (t.save s).file? p = some s.database := by
  have hj := file?_eq_none_of_contains ha.journal
  have hne : p ≠ Location.journal p := by
    intro he
    rw [← he] at hj
    rw [hj] at hf
    cases hf
  rw [save, hp]
  dsimp only
  rw [file?_remove_of_ne _ hne, file?_put_self]

/-- Saving takes no place and leaves none. -/
theorem samePlaces_save (ha : t.Alone p) (hp : s.place = some p)
    (hf : (t.file? p).isSome = true) : SamePlaces t (t.save s) where
  workingDirectory := by rw [save, hp]; rfl
  directories := by rw [save, hp]; rfl
  files q := by
    by_cases hq : q = p
    · rw [hq, file?_save_self ha hp hf, hf]
      rfl
    · rw [save, hp]
      dsimp only
      by_cases hj : q = Location.journal p
      · rw [hj, file?_remove_self, file?_eq_none_of_contains ha.journal]
      · rw [file?_remove_of_ne _ hj, file?_put_of_ne _ hq]

end FileTree

end Garage.Location

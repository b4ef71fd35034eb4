import Garage.Proofs.Location.Reopening
import Garage.Proofs.Location.Verbatim

/-!
# The file that a path names

A path names a file if each of its elements leads on from a directory that is there. The engine looks at
the text of a name only, and comes to the same place. So where a path is taken as it is, the file that it
names is opened or created and brought up to date, and nothing else changes but what is left beside it. For
a file in the working directory it does not happen otherwise: to come there, a name must have the file's
name among its elements, and no name is longer than its path.
-/

namespace Garage.Location

open Garage.Store (Database Error)

/-- The places that the engine uses beside a file. -/
def besides (p : Place) : List Place :=
  [journal p, writeAhead p, writeAheadIndex p]

namespace FileTree

/-- Goes along one element, from a directory that is there. No name and no place may be too long. -/
def enter (t : FileTree) (p : Place) (element : String) : Option Place :=
  if p = [] ∨ t.isDirectory p then
    if element = "" ∨ element = "." then some p
    else if element = ".." then some p.dropLast
    else if maxName < element.utf8ByteSize ∨ maxPath ≤ pathLength (p ++ [element]) then none
    else some (p ++ [element])
  else none

/-- The place that a path names. -/
def named? (t : FileTree) (path : String) : Option Place :=
  let start := if path.toList.head? = some '/' then [] else t.workingDirectory
  (elements path).foldlM t.enter start

/-- A file is never where a directory is. -/
def Sound (t : FileTree) : Prop :=
  ∀ p, (t.file? p).isSome → p ≠ [] ∧ t.isDirectory p = false

/-- The path names a file at this place, there or not, in a directory that is there. -/
structure Names (t : FileTree) (path : String) (p : Place) : Prop where
  leads : t.named? path = some p
  parent : t.isDirectory p.dropLast = true
  file : t.isDirectory p = false

/-- The engine has room for what it puts beside the file at this place. -/
structure Room (t : FileTree) (p : Place) : Prop where
  short : pathLength (journal p) ≤ maxPath
  nameable : isNameable (journal p) = true
  free : ∀ q ∈ besides p, t.isDirectory q = false

/-- The path names the file at this place, is taken as it is, and the engine has room there. -/
structure Admits (t : FileTree) (path : String) (p : Place) : Prop where
  names : t.Names path p
  verbatim : Verbatim path
  room : t.Room p

instance (t : FileTree) (path : String) (p : Place) : Decidable (t.Names path p) :=
  decidable_of_iff
    (t.named? path = some p ∧ t.isDirectory p.dropLast = true ∧ t.isDirectory p = false)
    ⟨fun ⟨l, d, f⟩ => ⟨l, d, f⟩, fun ⟨l, d, f⟩ => ⟨l, d, f⟩⟩

instance (t : FileTree) (p : Place) : Decidable (t.Room p) :=
  decidable_of_iff
    (pathLength (journal p) ≤ maxPath ∧ isNameable (journal p) = true ∧
      ∀ q ∈ besides p, t.isDirectory q = false)
    ⟨fun ⟨s, n, f⟩ => ⟨s, n, f⟩, fun ⟨s, n, f⟩ => ⟨s, n, f⟩⟩

instance (t : FileTree) (path : String) (p : Place) : Decidable (t.Admits path p) :=
  decidable_of_iff (t.Names path p ∧ Verbatim path ∧ t.Room p)
    ⟨fun ⟨n, v, r⟩ => ⟨n, v, r⟩, fun ⟨n, v, r⟩ => ⟨n, v, r⟩⟩

variable {t t' t'' : FileTree} {path element : String} {p q : Place} {db : Database}

/-! ## The engine's way -/

theorem Names.ne_nil (h : t.Names path p) : p ≠ [] := by
  rintro rfl
  have hp := h.parent
  rw [List.dropLast_nil, h.file] at hp
  cases hp

theorem walk_of_enter (ht : t.Sound) (h : t.enter p element = some q) :
    t.walk p element = some q := by
  unfold enter at h
  split at h
  · next hp =>
    have hf : (t.file? p).isSome = false := by
      by_contra hf
      obtain ⟨hne, hd⟩ := ht p ((Bool.not_eq_false _).mp hf)
      rcases hp with hp | hp
      · exact hne hp
      · rw [hd] at hp
        cases hp
    rw [walk, hf]
    simp only [Bool.false_eq_true, false_or]
    split at h
    · next he => rw [if_pos he, h]
    next he =>
    rw [if_neg he]
    split at h
    · next hu => rw [if_pos hu, h]
    next hu =>
    rw [if_neg hu]
    split at h
    · cases h
    next hl =>
    rw [if_neg (fun hn => hl (Or.inl hn)), if_neg (fun hn => hl (Or.inr hn)), h]
  · cases h

theorem foldlM_walk_of_enter (ht : t.Sound) {names : List String}
    (h : names.foldlM t.enter p = some q) : names.foldlM t.walk p = some q := by
  induction names generalizing p with
  | nil => exact h
  | cons name names ih =>
    rw [List.foldlM_cons] at h ⊢
    obtain ⟨r, hr, hrest⟩ := Option.bind_eq_some_iff.mp h
    exact Option.bind_eq_some_iff.mpr ⟨r, walk_of_enter ht hr, ih hrest⟩

/-- The engine comes to the place that a path names. -/
theorem resolve?_of_named? (ht : t.Sound) (h : t.named? path = some p) : t.resolve? path = some p :=
  foldlM_walk_of_enter ht h

theorem Names.ne_empty (h : t.Names path p) : path ≠ "" := by
  rintro rfl
  have hleads := h.leads
  have he : t.named? "" = (t.enter t.workingDirectory "" >>= some) := rfl
  rw [he, enter] at hleads
  split at hleads
  · next hd =>
    rw [if_pos (Or.inl rfl)] at hleads
    obtain rfl : t.workingDirectory = p := Option.some.inj hleads
    rcases hd with hd | hd
    · exact h.ne_nil hd
    · rw [h.file] at hd
      cases hd
  · cases hleads

/-! ## Trees that differ at few places -/

/-- The trees have the same directories. -/
structure SameDirectories (t t' : FileTree) : Prop where
  workingDirectory : t'.workingDirectory = t.workingDirectory
  directories : t'.directories = t.directories

theorem SameDirectories.refl (t : FileTree) : SameDirectories t t := ⟨rfl, rfl⟩

theorem SameDirectories.trans (h : SameDirectories t t') (h' : SameDirectories t' t'') :
    SameDirectories t t'' :=
  ⟨h'.workingDirectory.trans h.workingDirectory, h'.directories.trans h.directories⟩

theorem SameDirectories.isDirectory (h : SameDirectories t t') : t'.isDirectory = t.isDirectory := by
  funext p
  rw [FileTree.isDirectory, h.directories, FileTree.isDirectory]

/-- What a path names depends on the directories only. -/
theorem SameDirectories.named? (h : SameDirectories t t') : t'.named? = t.named? := by
  have henter : t'.enter = t.enter := by
    funext p element
    rw [enter, h.isDirectory, enter]
  funext path
  rw [FileTree.named?, henter, h.workingDirectory, FileTree.named?]

theorem SameDirectories.admits (h : SameDirectories t t') (ha : t.Admits path p) :
    t'.Admits path p := by
  obtain ⟨⟨hl, hp, hf⟩, hv, hs, hn, hr⟩ := ha
  rw [← h.named?] at hl
  rw [← h.isDirectory] at hp hf hr
  exact ⟨⟨hl, hp, hf⟩, hv, hs, hn, hr⟩

/-- The trees have the same directories, and the same files apart from those at some places. -/
structure SameBut (places : List Place) (t t' : FileTree) : Prop extends SameDirectories t t' where
  files : ∀ q ∉ places, t'.file? q = t.file? q

variable {places : List Place}

theorem SameBut.refl (places : List Place) (t : FileTree) : SameBut places t t :=
  ⟨.refl t, fun _ _ => rfl⟩

theorem SameBut.trans (h : SameBut places t t') (h' : SameBut places t' t'') :
    SameBut places t t'' :=
  ⟨h.toSameDirectories.trans h'.toSameDirectories,
    fun q hq => (h'.files q hq).trans (h.files q hq)⟩

theorem SameBut.cons (h : SameBut places t t') (p : Place) : SameBut (p :: places) t t' :=
  ⟨h.toSameDirectories, fun q hq => h.files q (List.not_mem_of_not_mem_cons hq)⟩

theorem sameBut_put (hp : p ∈ places) (t : FileTree) (db : Database) :
    SameBut places t (t.put p db) :=
  ⟨⟨rfl, rfl⟩, fun _ hq => file?_put_of_ne t (ne_of_mem_of_not_mem hp hq).symm db⟩

theorem sameBut_remove (hp : p ∈ places) (t : FileTree) : SameBut places t (t.remove p) :=
  ⟨⟨rfl, rfl⟩, fun _ hq => file?_remove_of_ne t (ne_of_mem_of_not_mem hp hq).symm⟩

theorem beside_ne {suffix : String} (hs : suffix ≠ "") (hp : p ≠ []) : beside p suffix ≠ p := by
  rcases List.eq_nil_or_concat p with rfl | ⟨r, name, rfl⟩
  · exact absurd rfl hp
  · rw [List.concat_eq_append, beside_concat]
    intro he
    have hn := List.singleton_injective (List.append_cancel_left he)
    have hl := congrArg String.length hn
    rw [String.length_append] at hl
    exact hs (String.length_eq_zero_iff.mp (by omega))

theorem not_mem_besides_self (hp : p ≠ []) : p ∉ besides p := by
  simp only [besides, List.mem_cons, List.not_mem_nil, or_false, not_or]
  exact ⟨(beside_ne (by decide) hp).symm, (beside_ne (by decide) hp).symm,
    (beside_ne (by decide) hp).symm⟩

theorem ne_nil_of_mem_besides (hp : p ≠ []) (h : q ∈ besides p) : q ≠ [] := by
  rcases List.eq_nil_or_concat p with rfl | ⟨r, name, rfl⟩
  · exact absurd rfl hp
  · rw [List.concat_eq_append] at h
    simp only [besides, journal, writeAhead, writeAheadIndex, beside_concat, List.mem_cons,
      List.not_mem_nil, or_false] at h
    rcases h with rfl | rfl | rfl <;> exact List.concat_ne_nil _ _

/-- Work at an admitted place leaves no file where a directory is. -/
theorem SameBut.sound (h : SameBut (p :: besides p) t t') (ht : t.Sound) (ha : t.Admits path p) :
    t'.Sound := by
  intro q hq
  rw [h.isDirectory]
  by_cases hm : q ∈ p :: besides p
  · rcases List.mem_cons.mp hm with rfl | hm
    · exact ⟨ha.names.ne_nil, ha.names.file⟩
    · exact ⟨ne_nil_of_mem_besides ha.names.ne_nil hm, ha.room.free q hm⟩
  · rw [h.files q hm] at hq
    exact ht q hq

end FileTree

/-! ## Opening a file -/

/-- A session with a file that can be written. -/
def Session.plain (p : Place) (db : Database) : Session :=
  ⟨some p, db, false, false, .shared, false⟩

namespace FileTree

variable {t t' : FileTree} {path : String} {p : Place} {db : Database}

/-- The tree in which there is a file at this place. -/
def withFile (t : FileTree) (p : Place) : FileTree :=
  if (t.file? p).isSome then t else t.put p .empty

/-- What the file at a place holds; one that is not there holds nothing. -/
def held (t : FileTree) (p : Place) : Database :=
  (t.file? p).getD .empty

theorem file?_withFile (t : FileTree) (p : Place) : (t.withFile p).file? p = some (t.held p) := by
  rw [withFile, held]
  cases hf : t.file? p with
  | none => rw [Option.isSome_none, if_neg Bool.false_ne_true, file?_put_self, Option.getD_none]
  | some db => rw [Option.isSome_some, if_pos rfl, hf, Option.getD_some]

theorem sameBut_withFile (t : FileTree) (p : Place) :
    SameBut (p :: besides p) t (t.withFile p) := by
  rw [withFile]
  split
  · exact .refl _ t
  · exact sameBut_put List.mem_cons_self t .empty

theorem openPlace_of_admits (h : t.Admits path p) :
    t.openPlace (.plain path) .shared p = (.ok (.plain p (t.held p)), t.withFile p) := by
  have hplace : ¬ (p = [] ∨ maxPath < pathLength (journal p)) := by
    rintro (hp | hp)
    · exact h.names.ne_nil hp
    · exact Nat.not_lt.mpr h.room.short hp
  have hpermissions : ((Source.plain path).permissionsOf.any
      fun name => !(t.resolve? name).any t.contains) = false := rfl
  rw [openPlace]
  dsimp only
  rw [if_neg hplace, hpermissions, if_neg Bool.false_ne_true, h.names.file,
    if_neg Bool.false_ne_true, withFile, held]
  cases hf : t.file? p with
  | some db => rfl
  | none =>
    dsimp only
    rw [if_pos ⟨rfl, h.names.parent⟩]
    rfl

/-- An admitted path is opened at the place that it names, where a file is created if there is none. -/
theorem connect_of_admits (ht : t.Sound) (h : t.Admits path p) :
    t.connect path = (.ok (.plain p (t.held p)), t.withFile p) := by
  have hname : ¬ ((Source.plain path).inMemory = true ∨ (Source.plain path).name = memoryName ∨
      (Source.plain path).name.isEmpty = true) := by
    rintro (hm | hm | hm)
    · cases hm
    · exact ne_memoryName h.verbatim.host hm
    · exact h.names.ne_empty (String.isEmpty_iff.mp hm)
  have hlayer : (Source.plain path).layer = .files .shared := rfl
  have hresolve : t.resolve? (Source.plain path).name = some p :=
    resolve?_of_named? ht h.names.leads
  have hopen : t.openSource (.plain path) = (.ok (.plain p (t.held p)), t.withFile p) := by
    rw [openSource]
    dsimp only
    rw [if_neg hname, hlayer, hresolve]
    exact openPlace_of_admits h
  rw [connect, sourceOf_of_verbatim h.verbatim]
  dsimp only
  rw [hopen]
  rfl

/-! ## A file in the working directory -/

theorem place_of_openPlace {source : Source} {locking : Locking} {s : Session}
    (h : t.openPlace source locking p = (.ok s, t')) : s.place = some p := by
  unfold openPlace at h
  dsimp only at h
  split at h
  · cases h
  split at h
  · cases h
  split at h
  · cases h
  split at h
  · cases (Prod.mk.inj h).1
    rfl
  · split at h
    · cases (Prod.mk.inj h).1
      rfl
    · cases h

/-- A session with a file has the one where the source's name leads. -/
theorem resolve?_of_openSource {source : Source} {s : Session}
    (h : t.openSource source = (.ok s, t')) (hp : s.place = some p) :
    t.resolve? source.name = some p := by
  unfold openSource at h
  dsimp only at h
  split at h
  · cases (Prod.mk.inj h).1
    cases hp
  split at h
  · split at h
    · cases h
    · cases (Prod.mk.inj h).1
      cases hp
  split at h
  · cases h
  next q hq =>
  rw [hq, ← place_of_openPlace h, hp]

theorem walk_cases {element : String} {q : Place} (h : t.walk p element = some q) :
    q = p ∨ q = p.dropLast ∨ q = p ++ [element] := by
  unfold walk at h
  split at h
  · exact Or.inl (Option.some.inj h).symm
  split at h
  · exact Or.inr (Or.inl (Option.some.inj h).symm)
  split at h
  · cases h
  split at h
  · cases h
  · exact Or.inr (Or.inr (Option.some.inj h).symm)

/-- A walk leaves some of the way where it began, and goes on with names that it was given. -/
theorem exists_of_foldlM_walk {names : List String} {q : Place}
    (h : names.foldlM t.walk p = some q) :
    ∃ k added, q = p.take k ++ added ∧ ∀ name ∈ added, name ∈ names := by
  induction names generalizing p with
  | nil =>
    obtain rfl : p = q := Option.some.inj h
    exact ⟨p.length, [], by rw [List.take_length, List.append_nil], fun _ h => nomatch h⟩
  | cons name names ih =>
    rw [List.foldlM_cons] at h
    obtain ⟨r, hr, hrest⟩ := Option.bind_eq_some_iff.mp h
    obtain ⟨k, added, rfl, hadded⟩ := ih hrest
    have hadded' : ∀ x ∈ added, x ∈ name :: names := fun x hx => List.mem_cons_of_mem _ (hadded x hx)
    rcases walk_cases hr with rfl | rfl | rfl
    · exact ⟨k, added, rfl, hadded'⟩
    · exact ⟨min k (p.length - 1), added, by rw [List.dropLast_eq_take, List.take_take], hadded'⟩
    · refine ⟨k, [name].take (k - p.length) ++ added, ?_, fun x hx => ?_⟩
      · rw [List.take_append, List.append_assoc]
      · rcases List.mem_append.mp hx with hx | hx
        · rw [List.mem_singleton.mp (List.mem_of_mem_take hx)]
          exact List.mem_cons_self
        · exact hadded' x hx

/-- A name that leads to a file in the working directory has the file's name among its elements. -/
theorem mem_elements_of_resolve? {name file : String}
    (h : t.resolve? name = some (t.workingDirectory ++ [file])) : file ∈ elements name := by
  obtain ⟨k, added, hq, hadded⟩ := exists_of_foldlM_walk h
  rcases List.eq_nil_or_concat added with rfl | ⟨front, last, rfl⟩
  · have hl := congrArg List.length hq
    rw [List.append_nil, List.length_append, List.length_take, List.length_singleton] at hl
    split at hl
    · rw [List.length_nil] at hl
      omega
    · omega
  · rw [List.concat_eq_append, ← List.append_assoc] at hq
    have hlast : file = last := List.singleton_injective (List.append_inj_right' hq rfl)
    rw [hlast]
    exact hadded last (by rw [List.concat_eq_append]; exact List.mem_concat_self)

end FileTree

theorem exists_splitAt (separator : Char) (cs : List Char) :
    ∃ first rest, splitAt separator cs = first :: rest ∧ first <+: cs ∧
      ∀ part ∈ rest, part <:+: cs := by
  induction cs with
  | nil => exact ⟨[], [], rfl, List.prefix_refl [], fun _ h => nomatch h⟩
  | cons c cs ih =>
    obtain ⟨first, rest, hs, hfirst, hrest⟩ := ih
    have hcs : cs <:+: c :: cs := (List.suffix_cons c cs).isInfix
    rw [splitAt, hs]
    dsimp only
    split
    · refine ⟨[], first :: rest, rfl, List.nil_prefix, fun part hp => ?_⟩
      rcases List.mem_cons.mp hp with rfl | hp
      · exact hfirst.isInfix.trans hcs
      · exact (hrest part hp).trans hcs
    · exact ⟨c :: first, rest, rfl, (List.prefix_cons_inj c).mpr hfirst,
        fun part hp => (hrest part hp).trans hcs⟩

/-- A name that is no longer than one of its elements is that element. -/
theorem eq_of_mem_elements {name file : String} (h : file ∈ elements name)
    (hl : nameSize name ≤ nameSize file) : name = file := by
  obtain ⟨part, hpart, rfl⟩ := List.mem_map.mp h
  obtain ⟨first, rest, hs, hfirst, hrest⟩ := exists_splitAt '/' name.toList
  have hinfix : part <:+: name.toList := by
    rw [hs] at hpart
    rcases List.mem_cons.mp hpart with rfl | hpart
    · exact hfirst.isInfix
    · exact hrest part hpart
  rw [nameSize_ofList] at hl
  rw [eq_of_infix_of_length hinfix hl, String.ofList_toList]

namespace FileTree

variable {t t' : FileTree} {path : String} {p : Place} {db : Database}

/-- The file of this name in the working directory is opened exactly if its name is taken as it is. -/
theorem connect_reaches_iff {name : String} (ht : t.Sound)
    (hn : t.Names name (t.workingDirectory ++ [name]))
    (hr : t.Room (t.workingDirectory ++ [name])) :
    (∃ s t', t.connect name = (.ok s, t') ∧ s.place = some (t.workingDirectory ++ [name])) ↔
      Verbatim name := by
  constructor
  · rintro ⟨s, t', hc, hp⟩
    unfold connect at hc
    split at hc
    · cases hc
    next source hs =>
    rcases ho : t.openSource source with ⟨_ | s', t₁⟩ <;> rw [ho] at hc <;> cases hc
    have hresolve := resolve?_of_openSource ho hp
    have hname := eq_of_mem_elements (mem_elements_of_resolve? hresolve) (nameSize_of_source hs)
    exact takenAsIs_iff.mp ⟨source, hs, hname⟩
  · intro hv
    exact ⟨_, _, connect_of_admits ht ⟨hn, hv, hr⟩, rfl⟩

/-! ## Bringing it up to date -/

theorem settleJournal_of_room (h : t.Room p) (db : Database) :
    ∃ t', t.settleJournal (.plain p db) p = .ok t' ∧ SameBut (besides p) t t' := by
  have hd := h.free (journal p) List.mem_cons_self
  have hremove : SameBut (besides p) t (t.remove (journal p)) :=
    sameBut_remove List.mem_cons_self t
  have hread : ((Session.plain p db).readOnly && (Session.plain p db).locking.isByFile) = false := rfl
  rw [settleJournal, hd, hread]
  split
  · exact ⟨t, rfl, .refl _ t⟩
  split
  · exact ⟨_, rfl, hremove⟩
  · exact ⟨_, rfl, hremove⟩

theorem settleWriteAhead_of_room (h : t.Room p) (db : Database) :
    ∃ t', t.settleWriteAhead (.plain p db) p = .ok t' ∧ SameBut (besides p) t t' := by
  have hlog : writeAhead p ∈ besides p := List.mem_cons_of_mem _ List.mem_cons_self
  have hindex : writeAheadIndex p ∈ besides p :=
    List.mem_cons_of_mem _ (List.mem_cons_of_mem _ List.mem_cons_self)
  have hremove : SameBut (besides p) t (t.remove (writeAhead p)) := sameBut_remove hlog t
  have hboth : SameBut (besides p) t ((t.remove (writeAhead p)).remove (writeAheadIndex p)) :=
    hremove.trans (sameBut_remove hindex _)
  rw [settleWriteAhead, h.free _ hlog, h.free _ hindex]
  split
  · exact ⟨t, rfl, .refl _ t⟩
  split
  · exact ⟨_, rfl, hremove⟩
  · exact ⟨_, rfl, hboth⟩

/-- The first access to an admitted file takes away what is left beside it, and no more. -/
theorem settle_of_admits (h : t.Admits path p) (db : Database) :
    ∃ t', t.settle (.plain p db) = .ok t' ∧ SameBut (besides p) t t' := by
  obtain ⟨t₁, hj, hs₁⟩ := settleJournal_of_room h.room db
  obtain ⟨t₂, hw, hs₂⟩ := settleWriteAhead_of_room (hs₁.toSameDirectories.admits h).room db
  refine ⟨t₂, ?_, hs₁.trans hs₂⟩
  have hsettle : t.settle (.plain p db) =
      (t.settleJournal (.plain p db) p >>= fun t => t.settleWriteAhead (.plain p db) p) := rfl
  rw [hsettle, hj]
  exact hw

theorem sameBut_save (t : FileTree) (p : Place) (db : Database) :
    SameBut (p :: besides p) t (t.save (.plain p db)) :=
  (sameBut_put List.mem_cons_self t db).trans
    (sameBut_remove (List.mem_cons_of_mem p List.mem_cons_self) _)

theorem file?_save (hp : p ≠ []) (t : FileTree) (db : Database) :
    (t.save (.plain p db)).file? p = some db := by
  have hne : p ≠ journal p := (beside_ne (by decide) hp).symm
  have hsave : t.save (.plain p db) = (t.put p db).remove (journal p) := rfl
  rw [hsave, file?_remove_of_ne _ hne, file?_put_self]

/-- The file at an admitted place is brought up to date, and nothing else changes but what is beside it. -/
theorem migrate_of_admits (h : t.Admits path p) (hf : t.file? p = some db) :
    ∃ t', t.migrate (.plain p db) = (.ok (.plain p (db.up none)), t') ∧
      t'.file? p = some (db.up none) ∧ SameBut (p :: besides p) t t' := by
  obtain ⟨t₁, hsettle, hs⟩ := settle_of_admits h db
  have hfile : t₁.file? p = some db := by
    rw [hs.files p (not_mem_besides_self h.names.ne_nil), hf]
  have hs' : SameBut (p :: besides p) t t₁ := hs.cons p
  have hjournal : t₁.canJournal p = true := by
    rw [canJournal, h.room.nameable, hs.isDirectory, h.room.free _ List.mem_cons_self]
    rfl
  rw [migrate, hsettle]
  dsimp only
  split
  · next hp =>
    have hup : db.up none = db := Database.up_of_isEmpty hp
    rw [hup]
    exact ⟨t₁, rfl, hfile, hs'⟩
  · have hplace : (Session.plain p db).place.all t₁.canJournal = true := hjournal
    have hread : (Session.plain p db).readOnly = false := rfl
    rw [hread, if_neg Bool.false_ne_true, if_pos hplace]
    exact ⟨_, rfl, file?_save h.names.ne_nil t₁ _, hs'.trans (sameBut_save t₁ p _)⟩

/-- To open an admitted path and to migrate leads to the file that it names, with all that was in it. -/
theorem connectMigrated_of_admits (ht : t.Sound) (h : t.Admits path p) :
    ∃ t', t.connectMigrated path = (.ok (.plain p ((t.held p).up none)), t') ∧
      t'.file? p = some ((t.held p).up none) ∧ SameBut (p :: besides p) t t' := by
  have hs := sameBut_withFile t p
  obtain ⟨t', hm, hf, hs'⟩ := migrate_of_admits (hs.toSameDirectories.admits h) (file?_withFile t p)
  refine ⟨t', ?_, hf, hs.trans hs'⟩
  rw [connectMigrated, connect_of_admits ht h]
  exact hm

end FileTree

end Garage.Location

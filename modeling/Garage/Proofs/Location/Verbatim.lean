import Garage.Location.Source
import Garage.Proofs.Text.Percent
import Mathlib.Data.List.TakeWhile

/-!
# Paths that are taken as they are

A path goes into a connection string unescaped, and what comes out at the other end is in general another
name. `Verbatim` says for which paths it is the same name: those in which nothing means anything to the
readers on the way. That it is the same name only for them rests on a count: no reader makes a name longer,
and whatever a reader takes out is gone for good.
-/

namespace Garage.Location

open Garage.Text (Percent.decode Utf8.encode)

/-- A path in which neither the connection string nor the engine finds anything but a file name. -/
structure Verbatim (path : String) : Prop where
  /-- What stands up to the first slash can be the host of a URL. -/
  host : isUrlTail (connectionTail path) = true
  question : '?' ∉ path.toList
  /-- There is no percent sign with two hexadecimal digits behind it. -/
  escapes : Percent.decode path.toList = Utf8.encode path.toList
  scheme : ¬ "sqlite:".toList <+: path.toList
  uri : ¬ "file:".toList <+: path.toList
  zero : '\x00' ∉ path.toList

instance (path : String) : Decidable (Verbatim path) :=
  decidable_of_iff
    (isUrlTail (connectionTail path) = true ∧ '?' ∉ path.toList ∧
      Percent.decode path.toList = Utf8.encode path.toList ∧ ¬ "sqlite:".toList <+: path.toList ∧
      ¬ "file:".toList <+: path.toList ∧ '\x00' ∉ path.toList)
    ⟨fun ⟨h, q, e, s, u, z⟩ => ⟨h, q, e, s, u, z⟩, fun ⟨h, q, e, s, u, z⟩ => ⟨h, q, e, s, u, z⟩⟩

/-- A file that is opened by its name, and created if it is not there. -/
def Source.plain (name : String) : Source :=
  ⟨name, .create, false, false, .files .shared, none, false⟩

/-- What is opened for the path has the path as its name. -/
def TakenAsIs (path : String) : Prop :=
  ∃ s, sourceOf path = .ok s ∧ s.name = path

/-! ## Words in front -/

variable {word cs r : List Char}

theorem dropWord_of_not_prefix (h : ¬ word <+: cs) : dropWord word cs = cs := by
  rw [dropWord, if_neg]
  rintro ⟨hp, -⟩
  exact h (List.isPrefixOf_iff_prefix.mp hp)

theorem dropWord_append (hw : word ≠ []) (cs : List Char) :
    dropWord word (word ++ cs) = dropWord word cs := by
  rw [dropWord, if_pos ⟨List.isPrefixOf_iff_prefix.mpr (List.prefix_append word cs), hw⟩,
    List.drop_left]

theorem dropWord_suffix (word cs : List Char) : dropWord word cs <:+ cs := by
  fun_induction dropWord word cs with
  | case1 cs h ih => exact ih.trans (List.drop_suffix _ _)
  | case2 cs h => exact List.suffix_refl cs

/-- A word without a question mark is not found in what follows one. -/
theorem dropWord_question (hw : '?' ∉ word) (cs r : List Char) :
    dropWord word (cs ++ '?' :: r) = dropWord word cs ++ '?' :: r := by
  fun_induction dropWord word cs with
  | case1 cs h ih =>
    obtain ⟨t, rfl⟩ := List.isPrefixOf_iff_prefix.mp h.1
    rw [List.drop_left] at ih
    rw [List.append_assoc, dropWord_append h.2, ih, List.drop_left]
  | case2 cs h =>
    by_cases hn : word = []
    · rw [dropWord, if_neg (by rintro ⟨-, hne⟩; exact hne hn)]
    refine dropWord_of_not_prefix fun hp => ?_
    rcases List.prefix_or_prefix_of_prefix hp (List.prefix_append cs _) with hc | ⟨u, rfl⟩
    · exact h ⟨List.isPrefixOf_iff_prefix.mpr hc, hn⟩
    · rw [List.prefix_append_right_inj] at hp
      cases u with
      | nil => exact h ⟨List.isPrefixOf_iff_prefix.mpr (by rw [List.append_nil]), hn⟩
      | cons c u =>
        obtain ⟨rfl, -⟩ := List.cons_prefix_cons.mp hp
        exact hw (List.mem_append_right cs List.mem_cons_self)

theorem dropWord_shorter (hw : word ≠ []) (h : word <+: cs) :
    (dropWord word cs).length < cs.length := by
  obtain ⟨t, rfl⟩ := h
  rw [dropWord_append hw, List.length_append]
  have := (dropWord_suffix word t).length_le
  have := List.length_pos_iff.mpr hw
  omega

/-! ## The name in a connection string -/

/-- A path without the schemes in front of it. -/
def stripped (path : String) : List Char :=
  dropWord "sqlite:".toList (dropWord "sqlite://".toList path.toList)

/-- The part of a path that is read as the name of a database. -/
def database (path : String) : List Char :=
  (stripped path).takeWhile (· != '?')

/-- The settings that are read after it. -/
def settings (path : String) : List (String × String) :=
  formPairs (((stripped path ++ "?mode=rwc".toList).dropWhile (· != '?')).drop 1)

theorem stripped_suffix (path : String) : stripped path <:+ path.toList :=
  (dropWord_suffix _ _).trans (dropWord_suffix _ _)

theorem stripped_of_not_prefix {path : String} (h : ¬ "sqlite:".toList <+: path.toList) :
    stripped path = path.toList := by
  have h' : ¬ "sqlite://".toList <+: path.toList := fun hp =>
    h (List.IsPrefix.trans (by decide) hp)
  rw [stripped, dropWord_of_not_prefix h', dropWord_of_not_prefix h]

theorem not_prefix_of_stripped {path : String} (h : stripped path = path.toList) :
    ¬ "sqlite:".toList <+: path.toList := by
  intro hp
  have hl := (dropWord_suffix "sqlite:".toList (dropWord "sqlite://".toList path.toList)).length_le
  by_cases h' : "sqlite://".toList <+: path.toList
  · have hd := dropWord_shorter (by decide) h'
    rw [← stripped, h] at hl
    omega
  · have hd := dropWord_shorter (by decide) hp
    rw [stripped, dropWord_of_not_prefix h'] at h
    rw [h] at hd
    omega

theorem takeWhile_question (cs r : List Char) :
    (cs ++ '?' :: r).takeWhile (· != '?') = cs.takeWhile (· != '?') := by
  induction cs with
  | nil => rfl
  | cons c cs ih => rw [List.cons_append, List.takeWhile_cons, List.takeWhile_cons, ih]

theorem wishOf_eq {path : String} (h : isUrlTail (connectionTail path) = true) :
    wishOf path =
      ((if database path = memoryName.toList then
          .ok { Wish.named memoryName with inMemory := true }
        else (decodeName (database path)).map Wish.named) >>=
        fun wish => wish.setAll (settings path)) := by
  have htext : dropWord "sqlite:".toList (dropWord "sqlite://".toList
      ("sqlite://".toList ++ connectionTail path)) = stripped path ++ "?mode=rwc".toList := by
    rw [dropWord_append (by decide), connectionTail]
    show dropWord _ (dropWord _ (path.toList ++ '?' :: "mode=rwc".toList)) = _
    rw [dropWord_question (by decide), dropWord_question (by decide)]
    rfl
  have hdatabase : (stripped path ++ "?mode=rwc".toList).takeWhile (· != '?') = database path :=
    takeWhile_question _ _
  unfold wishOf
  dsimp only
  rw [h, htext, hdatabase]
  by_cases hm : database path = memoryName.toList
  · rw [if_pos hm, if_pos hm]
    rfl
  · rw [if_neg hm, if_neg hm]
    rfl

theorem name_set {w w' : Wish} {name value : String} (h : w.set name value = .ok w') :
    w'.name = w.name := by
  unfold Wish.set at h
  dsimp only at h
  split at h
  · split at h
    · next hm =>
      cases h
      unfold Wish.setMode at hm
      split at hm <;> cases hm <;> rfl
    · cases h
  · split at h
    · next hm =>
      cases h
      unfold Wish.setCache at hm
      split at hm <;> cases hm <;> rfl
    · cases h
  · split at h
    · next hm =>
      cases h
      unfold Wish.setImmutable at hm
      split at hm <;> cases hm <;> rfl
    · cases h
  · cases h
    rfl
  · cases h

/-- Settings leave the name as it is. -/
theorem name_setAll {w w' : Wish} {pairs : List (String × String)} (h : w.setAll pairs = .ok w') :
    w'.name = w.name := by
  induction pairs generalizing w with
  | nil =>
    cases h
    rfl
  | cons pair pairs ih =>
    rw [Wish.setAll] at h
    split at h
    · next hs => exact (ih h).trans (name_set hs)
    · cases h

/-! ## Counting -/

/-- The number of bytes of a name. -/
def nameSize (name : String) : Nat :=
  (Utf8.encode name.toList).length

theorem nameSize_ofList (cs : List Char) : nameSize (String.ofList cs) = (Utf8.encode cs).length := by
  rw [nameSize, String.toList_ofList]

theorem nameSize_of_decodeName {name : String} (h : decodeName cs = .ok name) :
    nameSize name ≤ (Percent.decode cs).length := by
  unfold decodeName at h
  dsimp only at h
  split at h
  · cases h
  · next hf =>
    cases h
    refine Nat.le_trans (Nat.le_of_eq ?_) (Text.Utf8.sum_width_pieces_le (Percent.decode cs))
    rw [nameSize_ofList, Text.Utf8.length_encode]
    conv_rhs => rw [Text.Utf8.eq_map_char_of_firstFlaw? hf, List.map_map]
    rfl

theorem encode_append (cs ds : List Char) :
    Utf8.encode (cs ++ ds) = Utf8.encode cs ++ Utf8.encode ds :=
  List.flatMap_append

theorem encode_isInfix (h : cs <:+: r) : Utf8.encode cs <:+: Utf8.encode r := by
  obtain ⟨a, b, rfl⟩ := h
  rw [encode_append, encode_append]
  exact List.infix_append _ _ _

theorem eq_nil_of_encode (h : (Utf8.encode cs).length = 0) : cs = [] := by
  cases cs with
  | nil => rfl
  | cons c cs =>
    have := c.utf8Size_pos
    rw [Text.Utf8.length_encode, List.map_cons, List.sum_cons] at h
    omega

/-- A part of a text that takes as many bytes as the whole is the whole. -/
theorem eq_of_infix_of_length (h : cs <:+: r)
    (hl : (Utf8.encode r).length ≤ (Utf8.encode cs).length) : cs = r := by
  obtain ⟨a, b, rfl⟩ := h
  simp only [encode_append, List.length_append] at hl
  have ha : a = [] := eq_nil_of_encode (by omega)
  have hb : b = [] := eq_nil_of_encode (by omega)
  rw [ha, hb, List.nil_append, List.append_nil]

theorem length_encode_le (h : cs <:+: r) : (Utf8.encode cs).length ≤ (Utf8.encode r).length :=
  (encode_isInfix h).length_le

/-- Without escapes a name is read as it is written. -/
theorem decodeName_eq {path : String}
    (h : Percent.decode path.toList = Utf8.encode path.toList) : decodeName path.toList = .ok path := by
  rw [decodeName, h, Text.Utf8.pieces_encode, Text.Utf8.firstFlaw?_map_char, List.map_map]
  show Except.ok (String.ofList (path.toList.map id)) = _
  rw [List.map_id, String.ofList_toList]

/-- A name that is as long as the path was read from the whole path, and there was nothing to decode. -/
theorem of_decodeName {path name : String} (h : decodeName (database path) = .ok name)
    (hl : nameSize path ≤ nameSize name) :
    stripped path = path.toList ∧ '?' ∉ path.toList ∧
      Percent.decode path.toList = Utf8.encode path.toList ∧ name = path := by
  have hfront : database path <+: stripped path := List.takeWhile_prefix _
  have hname := nameSize_of_decodeName h
  have hdatabase : database path = path.toList :=
    eq_of_infix_of_length (hfront.isInfix.trans (stripped_suffix path).isInfix)
      ((hl.trans hname).trans (Text.Percent.length_decodeBytes_le _))
  have hstripped : stripped path = path.toList := by
    refine (stripped_suffix path).eq_of_length_le ?_
    rw [← hdatabase]
    exact hfront.length_le
  rw [hdatabase] at h hname
  have hdecode : Percent.decode path.toList = Utf8.encode path.toList :=
    Text.Percent.decodeBytes_eq_self (hl.trans hname)
  rw [decodeName_eq hdecode] at h
  refine ⟨hstripped, fun hq => ?_, hdecode, (Except.ok.inj h).symm⟩
  rw [← hdatabase] at hq
  exact absurd (List.mem_takeWhile_imp hq) (by decide)

/-! ## The name that the engine opens -/

theorem settings_of_stripped {path : String} (h : stripped path = path.toList)
    (hq : '?' ∉ path.toList) : settings path = [("mode", "rwc")] := by
  have hdrop : (stripped path ++ "?mode=rwc".toList).dropWhile (· != '?') = "?mode=rwc".toList := by
    have hne : ∀ c ∈ path.toList, (c != '?') = true := by
      intro c hc
      rw [bne_iff_ne]
      rintro rfl
      exact hq hc
    rw [h, List.dropWhile_append_of_pos hne]
    rfl
  rw [settings, hdrop]
  decide +kernel

/-- The wish for a path that comes out as it went in. -/
def Wish.plain (name : String) : Wish :=
  { Wish.named name with create := true }

theorem afterPrefix?_eq_none_iff : afterPrefix? word cs = none ↔ ¬ word <+: cs := by
  rw [afterPrefix?, ← List.isPrefixOf_iff_prefix]
  split
  · next h => exact iff_of_false nofun (not_not.mpr h)
  · next h => exact iff_of_true rfl h

theorem parts_plain (path : String) : (Wish.plain path).parts =
    if path.toList.contains '\x00' then
      .error (.communication "filename passed to SQLite must not contain nul bytes")
    else match afterPrefix? "file:".toList path.toList with
      | some r => readUri r
      | none => .ok (path, []) := rfl

theorem source_plain {path : String} (hz : '\x00' ∉ path.toList)
    (hu : ¬ "file:".toList <+: path.toList) :
    (Wish.plain path).source = .ok (.plain path) := by
  rw [Wish.source, parts_plain, if_neg (by rwa [List.contains_iff_mem]),
    afterPrefix?_eq_none_iff.mpr hu]
  rfl

/-- The name of a database in memory cannot be asked for by a path: it starts with an empty host. -/
theorem ne_memoryName {path : String} (h : isUrlTail (connectionTail path) = true) :
    path ≠ memoryName := by
  rintro rfl
  revert h
  decide +kernel

theorem wishOf_of_verbatim {path : String} (h : Verbatim path) : wishOf path = .ok (.plain path) := by
  have hs := stripped_of_not_prefix h.scheme
  have hd : database path = path.toList := by
    rw [database, hs]
    refine List.takeWhile_eq_self_iff.mpr fun c hc => ?_
    rw [bne_iff_ne]
    rintro rfl
    exact h.question hc
  have hm : path.toList ≠ memoryName.toList := fun he => ne_memoryName h.host (String.ext he)
  rw [wishOf_eq h.host, hd, if_neg hm, decodeName_eq h.escapes, settings_of_stripped hs h.question]
  rfl

/-- A path in which nothing means anything is opened as the file of that name. -/
theorem sourceOf_of_verbatim {path : String} (h : Verbatim path) :
    sourceOf path = .ok (.plain path) := by
  rw [sourceOf, wishOf_of_verbatim h]
  exact source_plain h.zero h.uri

/-! ## No other path -/

theorem afterAuthority_suffix (h : afterAuthority cs = .ok r) : r <:+ cs := by
  unfold afterAuthority at h
  split at h
  · dsimp only at h
    split at h
    · cases h
      exact (List.dropWhile_suffix _).trans ((List.suffix_cons _ _).trans (List.suffix_cons _ _))
    · cases h
  · cases h
    exact List.suffix_refl _

theorem nameSize_uriPart_le (cs : List Char) : nameSize (uriPart cs) ≤ (Utf8.encode cs).length := by
  rw [uriPart, nameSize_ofList, Text.Utf8.length_encode_decodeLossy]
  exact Text.Percent.shownSize_decode_le cs

/-- The file name in a URI is not longer than what follows `file:`. -/
theorem nameSize_of_readUri {name : String} {options : List (String × String)}
    (h : readUri r = .ok (name, options)) : nameSize name ≤ (Utf8.encode r).length := by
  unfold readUri at h
  cases ha : afterAuthority r with
  | error e =>
    rw [ha] at h
    cases h
  | ok t =>
    rw [ha] at h
    have hname := (Prod.mk.inj (Except.ok.inj h)).1
    have hpart : (t.takeWhile (· != '#')).takeWhile (· != '?') <:+: r :=
      ((List.takeWhile_prefix _).isInfix.trans (List.takeWhile_prefix _).isInfix).trans
        (afterAuthority_suffix ha).isInfix
    rw [← hname]
    exact (nameSize_uriPart_le _).trans (length_encode_le hpart)

theorem append_of_afterPrefix? (h : afterPrefix? word cs = some r) : word ++ r = cs := by
  rw [afterPrefix?] at h
  split at h
  · next hp =>
    cases h
    obtain ⟨t, rfl⟩ := List.isPrefixOf_iff_prefix.mp hp
    rw [List.drop_left]
  · cases h

/-- Where the name comes from that is handed to the engine. -/
theorem parts_cases {w : Wish} {name : String} {options : List (String × String)}
    (h : w.parts = .ok (name, options)) :
    name = String.ofList (w.name.toList.takeWhile (· != '\x00')) ∨ name = w.name ∨
      ∃ r, "file:".toList ++ r = w.name.toList ∧ readUri r = .ok (name, options) := by
  unfold Wish.parts at h
  dsimp only at h
  generalize (if w.immutable = true then [("immutable", "true")] else []) ++
    w.layer.toList.map _ = handed at h
  split at h
  · exact Or.inl (Prod.mk.inj (Except.ok.inj h)).1.symm
  split at h
  · cases h
  split at h
  · next r hr => exact Or.inr (Or.inr ⟨r, append_of_afterPrefix? hr, h⟩)
  · exact Or.inr (Or.inl (Prod.mk.inj (Except.ok.inj h)).1.symm)

theorem nameSize_of_parts {w : Wish} {name : String} {options : List (String × String)}
    (h : w.parts = .ok (name, options)) : nameSize name ≤ nameSize w.name := by
  rcases parts_cases h with rfl | rfl | ⟨r, hr, hu⟩
  · rw [nameSize_ofList]
    exact length_encode_le (List.takeWhile_prefix _).isInfix
  · exact Nat.le_refl _
  · refine (nameSize_of_readUri hu).trans (length_encode_le ?_)
    rw [← hr]
    exact (List.suffix_append _ r).isInfix

theorem parts_of_source {w : Wish} {s : Source} (h : w.source = .ok s) :
    ∃ options, w.parts = .ok (s.name, options) := by
  unfold Wish.source at h
  rcases hp : w.parts with e | ⟨name, options⟩
  · rw [hp] at h
    cases h
  rw [hp] at h
  cases ha : w.access.setAll options with
  | error e =>
    simp only [bind, Except.bind, ha] at h
    cases h
  | ok a =>
    cases hl : layerOf options with
    | error e =>
      simp only [bind, Except.bind, ha, hl] at h
      cases h
    | ok layer =>
      simp only [bind, Except.bind, ha, hl] at h
      cases h
      exact ⟨options, rfl⟩

/-- A name that is handed on as it is has no byte of zero, and is no URI: a URI is longer than the name that
is read from it. -/
theorem of_parts_plain {path : String} {options : List (String × String)}
    (h : (Wish.plain path).parts = .ok (path, options)) :
    '\x00' ∉ path.toList ∧ ¬ "file:".toList <+: path.toList := by
  rw [parts_plain] at h
  split at h
  · cases h
  next hz =>
  rw [List.contains_iff_mem] at hz
  refine ⟨hz, ?_⟩
  rw [← afterPrefix?_eq_none_iff]
  cases ha : afterPrefix? "file:".toList path.toList with
  | none => rfl
  | some r =>
    rw [ha] at h
    have hl := nameSize_of_readUri h
    rw [nameSize, ← append_of_afterPrefix? ha, encode_append, List.length_append] at hl
    have hword : (Utf8.encode "file:".toList).length = 5 := by decide
    omega

theorem exists_wish {path : String} {s : Source} (h : sourceOf path = .ok s) :
    isUrlTail (connectionTail path) = true ∧
      ∃ w options, wishOf path = .ok w ∧ w.parts = .ok (s.name, options) := by
  rw [sourceOf] at h
  cases hw : wishOf path with
  | error e =>
    rw [hw] at h
    cases h
  | ok w =>
  rw [hw] at h
  obtain ⟨options, hparts⟩ := parts_of_source h
  refine ⟨?_, w, options, rfl, hparts⟩
  cases hu : isUrlTail (connectionTail path) with
  | true => rfl
  | false =>
    rw [wishOf, hu] at hw
    cases hw

/-- A wish is for a database in memory, or for a name that has been read. -/
theorem wish_cases {path : String} {w : Wish} (host : isUrlTail (connectionTail path) = true)
    (h : wishOf path = .ok w) :
    (database path = memoryName.toList ∧ w.name = memoryName) ∨
      ∃ name, decodeName (database path) = .ok name ∧ w.name = name ∧
        (Wish.named name).setAll (settings path) = .ok w := by
  rw [wishOf_eq host] at h
  by_cases hm : database path = memoryName.toList
  · rw [if_pos hm] at h
    exact Or.inl ⟨hm, name_setAll h⟩
  rw [if_neg hm] at h
  cases hd : decodeName (database path) with
  | error e =>
    rw [hd] at h
    cases h
  | ok name =>
    rw [hd] at h
    exact Or.inr ⟨name, rfl, name_setAll h, h⟩

/-- What is opened for a path has no longer name than the path. -/
theorem nameSize_of_source {path : String} {s : Source} (h : sourceOf path = .ok s) :
    nameSize s.name ≤ nameSize path := by
  obtain ⟨host, w, options, hw, hparts⟩ := exists_wish h
  have hpart : database path <:+: path.toList :=
    (List.takeWhile_prefix _).isInfix.trans (stripped_suffix path).isInfix
  refine (nameSize_of_parts hparts).trans (Nat.le_trans ?_ (length_encode_le hpart))
  rcases wish_cases host hw with ⟨hm, hname⟩ | ⟨name, hd, hname, -⟩
  · rw [hname, nameSize, hm]
  · rw [hname]
    exact (nameSize_of_decodeName hd).trans (Text.Percent.length_decodeBytes_le _)

/-- The paths that are taken as they are. -/
theorem takenAsIs_iff {path : String} : TakenAsIs path ↔ Verbatim path := by
  refine ⟨?_, fun h => ⟨_, sourceOf_of_verbatim h, rfl⟩⟩
  rintro ⟨s, hs, hn⟩
  obtain ⟨host, w, options, hw, hparts⟩ := exists_wish hs
  rw [hn] at hparts
  rcases wish_cases host hw with ⟨-, hname⟩ | ⟨name, hd, hname, hset⟩
  · refine absurd ?_ (ne_memoryName host)
    rcases parts_cases hparts with he | he | ⟨r, hr, -⟩
    · rw [he, hname]
      decide
    · rw [he, hname]
    · rw [hname] at hr
      cases hr
  · obtain ⟨hstripped, hq, he, rfl⟩ := of_decodeName hd (hname ▸ nameSize_of_parts hparts)
    rw [settings_of_stripped hstripped hq] at hset
    obtain rfl : Wish.plain name = w := Except.ok.inj hset
    obtain ⟨hz, hu⟩ := of_parts_plain hparts
    exact ⟨host, hq, he, not_prefix_of_stripped hstripped, hu, hz⟩

/-- A blank is part of a file name, but the first part of a relative path must do as a host. -/
example : TakenAsIs "./my garage.db" ∧ ¬ TakenAsIs "my garage.db" := by
  rw [takenAsIs_iff, takenAsIs_iff]
  decide +kernel

end Garage.Location

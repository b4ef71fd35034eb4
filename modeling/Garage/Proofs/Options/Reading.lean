import Garage.Options.Parse
import Mathlib.Data.List.TakeWhile

/-!
# Options on a command line

A command line without positional arguments is a list of options, each in one of its spellings. However they
are spelled, reading notes them one after the other, each with its value. An option is only settled when the
next one comes, and nothing is lost by that.
-/

namespace Garage.Options

/-! ## Arguments by their form -/

theorem ofArgument_of_dashes {argument : String} {r : List Char} (h : argument.toList = '-' :: '-' :: r)
    (hne : r ≠ []) :
    Token.ofArgument argument = .long (String.ofList (r.takeWhile (· != '=')))
      (match r.dropWhile (· != '=') with
        | _ :: v => some (String.ofList v)
        | [] => none) := by
  obtain ⟨c, r, rfl⟩ := List.exists_cons_of_ne_nil hne
  rw [Token.ofArgument, h]
  rfl

theorem ne_equals {name : String} (h : '=' ∉ name.toList) : ∀ c ∈ name.toList, (c != '=') = true := by
  intro c hc
  rw [bne_iff_ne]
  rintro rfl
  exact h hc

theorem ofArgument_name {name : String} (hne : name ≠ "") (h : '=' ∉ name.toList) :
    Token.ofArgument ("--" ++ name) = .long name none := by
  have hchars : ("--" ++ name).toList = '-' :: '-' :: name.toList := String.toList_append
  rw [ofArgument_of_dashes hchars (mt String.toList_eq_nil_iff.mp hne),
    List.takeWhile_eq_self_iff.mpr (ne_equals h), List.dropWhile_eq_nil_iff.mpr (ne_equals h),
    String.ofList_toList]

theorem ofArgument_joined {name : String} (h : '=' ∉ name.toList) (value : String) :
    Token.ofArgument ("--" ++ name ++ "=" ++ value) = .long name (some value) := by
  have hchars : ("--" ++ name ++ "=" ++ value).toList = '-' :: '-' :: (name.toList ++ '=' :: value.toList) := by
    simp
  rw [ofArgument_of_dashes hchars (List.append_ne_nil_of_right_ne_nil _ (List.cons_ne_nil _ _)),
    List.takeWhile_append_of_pos (ne_equals h), List.dropWhile_append_of_pos (ne_equals h)]
  show Token.long (String.ofList (name.toList ++ [])) (some (String.ofList value.toList)) = _
  rw [List.append_nil, String.ofList_toList, String.ofList_toList]

theorem ofArgument_letter {x : Char} (h : x ≠ '-') :
    Token.ofArgument (String.ofList ['-', x]) = .short [x] := by
  rw [Token.ofArgument, String.toList_ofList]
  split
  · next he => cases he; exact absurd rfl h
  · next he => cases he; exact absurd rfl h
  · next he => cases he; rfl
  · next hnot => exact absurd rfl (hnot x [])

theorem ofArgument_plain {value : String} (h : value.toList.head? ≠ some '-') :
    Token.ofArgument value = .plain := by
  rw [Token.ofArgument]
  split
  · next he => rw [he] at h; exact absurd rfl h
  · next he => rw [he] at h; exact absurd rfl h
  · next he => rw [he] at h; exact absurd rfl h
  · rfl

/-! ## Spellings -/

/-- How an option with a value is written: in two arguments, by its name or by its letter, or in one. -/
inductive Spelling where
  | name
  | letter (x : Char)
  | joined

/-- An option as it is given: a flag, or an option with its value. -/
inductive Occurrence where
  | flag (s : Switch)
  | valued (s : Switch) (spelling : Spelling) (value : String)

namespace Occurrence

def switch : Occurrence → Switch
  | flag s => s
  | valued s _ _ => s

/-- What the option is set to. A flag that is given is true. -/
def value : Occurrence → String
  | flag _ => "true"
  | valued _ _ v => v

def arguments : Occurrence → List String
  | flag s => ["--" ++ s.long]
  | valued s .name v => ["--" ++ s.long, v]
  | valued _ (.letter x) v => [String.ofList ['-', x], v]
  | valued s .joined v => ["--" ++ s.long ++ "=" ++ v]

/-- The option is one of the command, and its value cannot be taken for an option. -/
inductive Fits (c : Command) : Occurrence → Prop where
  | flag {s : Switch} (mem : s ∈ c.switches) (kind : s.kind = .flag) : Fits c (.flag s)
  | valued {s : Switch} {spelling : Spelling} {v : String} (mem : s ∈ c.switches) (kind : s.kind ≠ .flag)
      (letter : ∀ x, spelling = .letter x → s.short = some x) (plain : v.toList.head? ≠ some '-') :
      Fits c (.valued s spelling v)

theorem Fits.mem {c : Command} {o : Occurrence} (h : o.Fits c) : o.switch ∈ c.switches := by
  cases h with
  | flag hs => exact hs
  | valued hs => exact hs

end Occurrence

/-- Names and letters tell the options of a command apart, from each other and from asking for help. -/
structure Command.WellNamed (c : Command) : Prop where
  name_ne : ∀ s ∈ c.switches, s.long ≠ ""
  no_equals : ∀ s ∈ c.switches, '=' ∉ s.long.toList
  long : ∀ s ∈ c.switches, c.long? s.long = some (.switch s)
  letter_ne : ∀ s ∈ c.switches, s.short ≠ some '-'
  short : ∀ s ∈ c.switches, ∀ x, s.short = some x → c.short? x = some (.switch s)

namespace Reading

variable {c : Command} {r r' : Reading} {s : Switch}

/-! ## One argument -/

theorem take_name (hc : c.WellNamed) (hs : s ∈ c.switches) (ht : r.trailing = false) :
    r.take c ("--" ++ s.long) = r.openSwitch s := by
  rw [take, ht, if_neg Bool.false_ne_true, ofArgument_name (hc.name_ne s hs) (hc.no_equals s hs)]
  simp only [hc.long s hs]

theorem take_joined (hc : c.WellNamed) (hs : s ∈ c.switches) (hk : s.kind ≠ .flag)
    (ht : r.trailing = false) (v : String) :
    r.take c ("--" ++ s.long ++ "=" ++ v) = r.attach s v := by
  rw [take, ht, if_neg Bool.false_ne_true, ofArgument_joined (hc.no_equals s hs)]
  simp only [hc.long s hs, if_neg hk]

theorem take_letter (hc : c.WellNamed) (hs : s ∈ c.switches) (hk : s.kind ≠ .flag) {x : Char}
    (hx : s.short = some x) (ht : r.trailing = false) :
    r.take c (String.ofList ['-', x]) = r.openSwitch s := by
  have hdash : x ≠ '-' := by
    rintro rfl
    exact hc.letter_ne s hs hx
  rw [take, ht, if_neg Bool.false_ne_true, ofArgument_letter hdash]
  simp only [letters, hc.short s hs x hx, if_neg hk]

/-- A value is taken by the option that waits for it. -/
theorem take_awaited (ht : r.trailing = false) {v : String} (hv : v.toList.head? ≠ some '-') :
    { r with pending := some (s, none) }.take c v = .ok { r with pending := some (s, some v) } := by
  rw [take, ht, if_neg Bool.false_ne_true, ofArgument_plain hv]

/-! ## One option -/

/-- Notes an option as far as its spelling lets it: if its value is an argument of its own, the option waits
with it. -/
def give (r : Reading) : Occurrence → Except Refusal Reading
  | .flag s => r.record s "true"
  | .valued s .joined v => r.record s v
  | .valued s _ v => .ok { r with pending := some (s, some v) }

theorem record_eq_ok {v : String} (h : r.record s v = .ok r') :
    r'.pending = r.pending ∧ r'.trailing = r.trailing := by
  rw [record] at h
  split at h
  · cases h
  · split at h
    · cases h
    · cases h
      exact ⟨rfl, rfl⟩

theorem settle_of_none (h : r.pending = none) : r.settle = .ok r := by
  rw [settle, h]

theorem settle_eq_ok (h : r.settle = .ok r') : r'.pending = none ∧ r'.trailing = r.trailing := by
  rw [settle] at h
  split at h
  · next hp =>
    cases h
    exact ⟨hp, rfl⟩
  · cases h
  · exact record_eq_ok h

theorem give_eq_ok {o : Occurrence} (h : r.give o = .ok r') : r'.trailing = r.trailing := by
  cases o with
  | flag s => exact (record_eq_ok h).2
  | valued s spelling v =>
    cases spelling with
    | joined => exact (record_eq_ok h).2
    | name | letter x =>
      cases h
      rfl

theorem settle_record (h : r.pending = none) (v : String) : (r.record s v >>= settle) = r.record s v := by
  cases hr : r.record s v with
  | error e => rfl
  | ok r' => exact settle_of_none ((record_eq_ok hr).1.trans h)

theorem settle_awaited (h : r.pending = none) (v : String) :
    { r with pending := some (s, some v) }.settle = r.record s v := by
  obtain ⟨given, positionals, pending, trailing⟩ := r
  cases h
  rfl

/-- However it is spelled, an option is in the end noted with its value. -/
theorem settle_give (h : r.pending = none) (o : Occurrence) :
    (r.give o >>= settle) = r.record o.switch o.value := by
  cases o with
  | flag s => exact settle_record h "true"
  | valued s spelling v =>
    cases spelling with
    | joined => exact settle_record h v
    | name | letter x => exact settle_awaited h v

theorem openSwitch_then_take (hk : s.kind ≠ .flag) (ht : r.trailing = false) {v : String}
    (hv : v.toList.head? ≠ some '-') :
    (r.openSwitch s >>= fun r => r.take c v) =
      r.settle >>= fun r => .ok { r with pending := some (s, some v) } := by
  simp only [openSwitch, if_neg hk]
  cases hr : r.settle with
  | error e => rfl
  | ok r' => exact take_awaited ((settle_eq_ok hr).2.trans ht) hv

/-- The arguments of an option settle the option before it and give the next. -/
theorem foldlM_take_arguments (hc : c.WellNamed) {o : Occurrence} (ho : o.Fits c)
    (ht : r.trailing = false) :
    o.arguments.foldlM (fun r a => r.take c a) r = r.settle >>= fun r => r.give o := by
  cases ho with
  | flag hs hk =>
    rw [Occurrence.arguments, List.foldlM_cons, take_name hc hs ht, openSwitch]
    simp only [if_pos hk, List.foldlM_nil, bind_pure]
    rfl
  | @valued s spelling v hs hk hletter hv =>
    cases spelling with
    | name =>
      rw [Occurrence.arguments, List.foldlM_cons, take_name hc hs ht]
      simp only [List.foldlM_cons, List.foldlM_nil, bind_pure]
      exact openSwitch_then_take hk ht hv
    | letter x =>
      rw [Occurrence.arguments, List.foldlM_cons, take_letter hc hs hk (hletter x rfl) ht]
      simp only [List.foldlM_cons, List.foldlM_nil, bind_pure]
      exact openSwitch_then_take hk ht hv
    | joined =>
      rw [Occurrence.arguments, List.foldlM_cons, take_joined hc hs hk ht]
      simp only [List.foldlM_nil, bind_pure]
      rfl

/-! ## A whole command line -/

/-- Reading options is noting them one by one, each after the one before it was settled. -/
theorem settle_foldlM_take (hc : c.WellNamed) {os : List Occurrence} (h : ∀ o ∈ os, o.Fits c)
    (ht : r.trailing = false) :
    ((os.flatMap Occurrence.arguments).foldlM (fun r a => r.take c a) r >>= settle) =
      r.settle >>= fun r => os.foldlM (fun r o => r.record o.switch o.value) r := by
  -- By induction on the options, for any reading to start from: an option that waits with its value is settled by
  -- whatever comes next, and so is carried over to the options that follow.
  induction os generalizing r with
  | nil =>
    simp only [List.flatMap_nil, List.foldlM_nil, bind_pure, pure_bind]
  | cons o os ih =>
    obtain ⟨ho, hos⟩ := List.forall_mem_cons.mp h
    rw [List.flatMap_cons, List.foldlM_append, foldlM_take_arguments hc ho ht]
    cases hr : r.settle with
    | error e => rfl
    | ok r' =>
      have ht' := (settle_eq_ok hr).2.trans ht
      show ((r'.give o >>= _) >>= settle) = (r'.record o.switch o.value >>= _)
      rw [← settle_give (settle_eq_ok hr).1 o, bind_assoc, bind_assoc]
      cases hg : r'.give o with
      | error e => rfl
      | ok r'' => exact ih hos ((give_eq_ok hg).trans ht')

theorem record_of_new (h : r.given.lookup s.long = none) (v : String) :
    r.record s v = match s.kind.refusal? v with
      | some refusal => .error refusal
      | none => .ok { r with given := r.given ++ [(s.long, v)] } := by
  rw [record, h, Option.isSome_none]
  exact if_neg Bool.false_ne_true

end Reading

namespace Occurrence

/-- Why the option is refused, if it is. -/
def refusal? (o : Occurrence) : Option Refusal :=
  o.switch.kind.refusal? o.value

def entry (o : Occurrence) : String × String :=
  (o.switch.long, o.value)

end Occurrence

/-- Different options that were not given before are noted, unless one of them is refused. -/
theorem Reading.foldlM_record {os : List Occurrence} {r : Reading}
    (honce : (os.map fun o => o.switch.long).Nodup)
    (hnew : ∀ o ∈ os, r.given.lookup o.switch.long = none) :
    os.foldlM (fun r o => r.record o.switch o.value) r = match os.findSome? Occurrence.refusal? with
      | some refusal => .error refusal
      | none => .ok { r with given := r.given ++ os.map Occurrence.entry } := by
  induction os generalizing r with
  | nil =>
    show Except.ok r = .ok { r with given := r.given ++ [] }
    rw [List.append_nil]
  | cons o os ih =>
    obtain ⟨ho, hos⟩ := List.forall_mem_cons.mp hnew
    rw [List.map_cons, List.nodup_cons] at honce
    rw [List.foldlM_cons, Reading.record_of_new ho, List.findSome?_cons, Occurrence.refusal?]
    cases hrefused : o.switch.kind.refusal? o.value with
    | some refusal => rfl
    | none =>
      have hnext : ∀ o' ∈ os, (r.given ++ [o.entry]).lookup o'.switch.long = none := by
        intro o' ho'
        have hne : (o'.switch.long == o.switch.long) = false := by
          rw [beq_eq_false_iff_ne]
          intro he
          exact honce.1 (he ▸ List.mem_map_of_mem ho')
        rw [List.lookup_append, hos o' ho', Option.none_or, Occurrence.entry, List.lookup_cons, hne]
        rfl
      have h := ih (r := { r with given := r.given ++ [o.entry] }) honce.2 hnext
      rw [List.append_assoc, List.singleton_append, ← List.map_cons] at h
      exact h

/-! ## Command lines -/

/-- The options of a command line, each given at most once. -/
structure CommandLine (c : Command) where
  options : List Occurrence
  fits : ∀ o ∈ options, o.Fits c
  once : (options.map fun o => o.switch.long).Nodup

namespace CommandLine

variable {c : Command}

def arguments (line : CommandLine c) : List String :=
  line.options.flatMap Occurrence.arguments

def entries (line : CommandLine c) : List (String × String) :=
  line.options.map Occurrence.entry

/-- What the command line sets the option of this name to. -/
def value? (line : CommandLine c) (name : String) : Option String :=
  line.entries.lookup name

theorem value?_eq_some_iff {line : CommandLine c} {name v : String} :
    line.value? name = some v ↔ ∃ o ∈ line.options, o.switch.long = name ∧ o.value = v := by
  rw [value?, List.lookup_eq_some_iff]
  constructor
  · rintro ⟨before, after, he, -⟩
    have hmem : (name, v) ∈ line.entries := he ▸ List.mem_append_right _ List.mem_cons_self
    obtain ⟨o, ho, he⟩ := List.mem_map.mp hmem
    exact ⟨o, ho, congrArg Prod.fst he, congrArg Prod.snd he⟩
  · rintro ⟨o, ho, rfl, rfl⟩
    obtain ⟨before, after, he⟩ := List.mem_iff_append.mp ho
    refine ⟨before.map Occurrence.entry, after.map Occurrence.entry, ?_, ?_⟩
    · rw [entries, he, List.map_append, List.map_cons]
      rfl
    · intro p hp
      obtain ⟨o', ho', rfl⟩ := List.mem_map.mp hp
      have honce := line.once
      rw [he, List.map_append, List.map_cons, List.nodup_append] at honce
      rw [bne_iff_ne]
      exact (honce.2.2 _ (List.mem_map_of_mem ho') _ List.mem_cons_self).symm

theorem value?_of_perm {line line' : CommandLine c} (h : line.options.Perm line'.options)
    (name : String) : line.value? name = line'.value? name := by
  refine Option.ext fun v => ?_
  rw [value?_eq_some_iff, value?_eq_some_iff]
  simp only [h.mem_iff]

/-- A command line is read as its options with their values, unless one of them is refused. -/
theorem read_arguments (hc : c.WellNamed) (line : CommandLine c) :
    c.read line.arguments = match line.options.findSome? Occurrence.refusal? with
      | some refusal => .error refusal
      | none => .ok ⟨line.entries, [], none, false⟩ := by
  have h := Reading.settle_foldlM_take (r := .start) hc line.fits rfl
  rw [Reading.settle_of_none rfl] at h
  exact h.trans (Reading.foldlM_record line.once fun _ _ => rfl)

end CommandLine

end Garage.Options

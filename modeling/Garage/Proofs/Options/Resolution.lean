import Garage.Options.Resolve
import Garage.Proofs.Options.Reading

/-!
# What options are set to

An option is decided by one text: what the command line sets it to, else its variable, and if there is neither
it has its default. Which refusal is met first depends on the order in which the options are read, so the
order does not matter where all refusals are alike.
-/

namespace Garage.Options

/-- The text that decides an option: what is given under its name, else its variable. -/
def text? (given : List (String × String)) (env : Environment) (name envName : String) : Option String :=
  (given.lookup name).or (env.lookup envName)

/-! ## Settling options -/

section Switches

variable {s : Switch} {given : List (String × String)} {env : Environment}

/-- Why the text that decides the option is refused, if it is. -/
def Switch.refusal? (s : Switch) (given : List (String × String)) (env : Environment) : Option Refusal :=
  (text? given env s.long s.envName).bind s.kind.refusal?

/-- The text that decides the option, else its default. -/
def Switch.setting (s : Switch) (given : List (String × String)) (env : Environment) : String :=
  ((text? given env s.long s.envName).or s.default).getD ""

/-- What is given was judged when it was read, and its variable is then not looked at. -/
theorem Switch.resolve_eq (h : ∀ t, given.lookup s.long = some t → s.kind.refusal? t = none) :
    s.resolve given env = match s.refusal? given env with
      | some refusal => .error refusal
      | none => .ok (s.setting given env) := by
  rw [resolve, fromEnvironment, Switch.refusal?, setting, text?]
  unfold value
  cases hg : given.lookup s.long with
  | some t =>
    rw [Option.some_or, Option.bind_some, h t hg]
    rfl
  | none =>
    rw [Option.none_or, Option.isSome_none, if_neg Bool.false_ne_true]
    cases env.lookup s.envName with
    | none => rfl
    | some v =>
      rw [Option.bind_some]
      cases hr : s.kind.refusal? v with
      | none => simp only [hr]; rfl
      | some refusal => simp only [hr]; rfl

theorem resolveAll_eq {switches : List Switch}
    (h : ∀ s ∈ switches, ∀ t, given.lookup s.long = some t → s.kind.refusal? t = none) :
    resolveAll given env switches = match switches.findSome? fun s => s.refusal? given env with
      | some refusal => .error refusal
      | none => .ok (switches.map fun s => (s.long, s.setting given env)) := by
  induction switches with
  | nil => rfl
  | cons s rest ih =>
    obtain ⟨hs, hrest⟩ := List.forall_mem_cons.mp h
    rw [resolveAll, Switch.resolve_eq hs, ih hrest, List.findSome?_cons]
    cases s.refusal? given env with
    | some refusal => rfl
    | none =>
      cases rest.findSome? fun s => s.refusal? given env with
      | some refusal => rfl
      | none => rfl

end Switches

/-! ## A command without positional arguments -/

namespace CommandLine

variable {c : Command} {line : CommandLine c} {env : Environment}

theorem refusal?_of_mem {o : Occurrence} (ho : o ∈ line.options) (env : Environment) :
    o.switch.refusal? line.entries env = o.refusal? := by
  have hv : line.entries.lookup o.switch.long = some o.value := value?_eq_some_iff.mpr ⟨o, ho, rfl, rfl⟩
  rw [Switch.refusal?, text?, hv]
  rfl

theorem exists_of_value? (hc : c.WellNamed) {s : Switch} (hs : s ∈ c.switches) {t : String}
    (h : line.value? s.long = some t) : ∃ o ∈ line.options, o.switch = s ∧ o.value = t := by
  obtain ⟨o, ho, hname, hvalue⟩ := value?_eq_some_iff.mp h
  have hswitch := hc.long o.switch (line.fits o ho).mem
  rw [hname, hc.long s hs] at hswitch
  cases hswitch
  exact ⟨o, ho, rfl, hvalue⟩

theorem settings_arguments (hc : c.WellNamed) (hp : c.positionals = []) (line : CommandLine c)
    (env : Environment) :
    c.settings line.arguments env =
      match (line.options.findSome? Occurrence.refusal?).or
        (c.switches.findSome? fun s => s.refusal? line.entries env) with
      | some refusal => .error refusal
      | none => .ok ⟨c.switches.map fun s => (s.long, s.setting line.entries env), []⟩ := by
  rw [Command.settings, read_arguments hc]
  cases hline : line.options.findSome? Occurrence.refusal? with
  | some refusal => rfl
  | none =>
    -- Nothing that is given is refused now, or reading would have ended with it.
    have hgiven : ∀ s ∈ c.switches, ∀ t, line.entries.lookup s.long = some t →
        s.kind.refusal? t = none := by
      intro s hs t ht
      obtain ⟨o, ho, rfl, rfl⟩ := exists_of_value? hc hs ht
      exact List.findSome?_eq_none_iff.mp hline o ho
    show (resolveAll line.entries env c.switches >>= _) = _
    rw [resolveAll_eq hgiven, Option.none_or]
    cases c.switches.findSome? fun s => s.refusal? line.entries env with
    | some refusal => rfl
    | none =>
      show (if 0 < c.positionals.length then Except.error Refusal.missingArgument else _) = _
      rw [hp]
      rfl

theorem settings_of_admitted (hc : c.WellNamed) (hp : c.positionals = [])
    (h : ∀ s ∈ c.switches, s.refusal? line.entries env = none) :
    c.settings line.arguments env =
      .ok ⟨c.switches.map fun s => (s.long, s.setting line.entries env), []⟩ := by
  have hline : line.options.findSome? Occurrence.refusal? = none := by
    rw [List.findSome?_eq_none_iff]
    intro o ho
    rw [← refusal?_of_mem ho env]
    exact h o.switch (line.fits o ho).mem
  rw [settings_arguments hc hp, hline, List.findSome?_eq_none_iff.mpr h]
  rfl

/-- Where all refusals are alike, it does not matter which one is met first. -/
theorem settings_of_refused (hc : c.WellNamed) (hp : c.positionals = []) {refusal : Refusal}
    (halike : ∀ s ∈ c.switches, ∀ e, s.refusal? line.entries env = some e → e = refusal)
    {s : Switch} (hs : s ∈ c.switches) (h : s.refusal? line.entries env = some refusal) :
    c.settings line.arguments env = .error refusal := by
  rw [settings_arguments hc hp]
  cases hline : line.options.findSome? Occurrence.refusal? with
  | some e =>
    obtain ⟨o, ho, he⟩ := List.exists_of_findSome?_eq_some hline
    rw [← refusal?_of_mem ho env] at he
    rw [Option.some_or, halike o.switch (line.fits o ho).mem e he]
  | none =>
    rw [Option.none_or]
    cases hswitches : c.switches.findSome? fun s => s.refusal? line.entries env with
    | some e =>
      obtain ⟨s', hs', he⟩ := List.exists_of_findSome?_eq_some hswitches
      rw [halike s' hs' e he]
    | none =>
      rw [List.findSome?_eq_none_iff.mp hswitches s hs] at h
      cases h

end CommandLine

end Garage.Options

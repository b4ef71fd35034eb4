import Garage.Options.Server
import Garage.Proofs.Options.Port
import Garage.Proofs.Options.Resolution

/-!
# The options of the server

Four texts decide what the server's options are, one for each. Of these only the port can be refused, so it
alone decides whether there are options at all, and neither the order of the options nor a variable that the
command line overrides makes a difference.
-/

namespace Garage.Options

theorem serverCommand_wellNamed : serverCommand.WellNamed where
  name_ne := by decide
  no_equals := by decide
  long := by decide
  letter_ne := by decide
  short := by simp [serverCommand, Command.short?]

namespace ServerOptions

section Arguments

variable {line : CommandLine serverCommand} {env : Environment}

/-! ## The text of the port alone is refused -/

/-- The variable for finding faults is `true` or `false`, unless the flag is given. -/
def DebugIsBoolean (line : CommandLine serverCommand) (env : Environment) : Prop :=
  line.value? "debug" = none → ∀ v, env.lookup "USERVEHICLE_DEBUG" = some v → v = "true" ∨ v = "false"

/-- The flag that is given is true. -/
theorem value?_debug {t : String} (h : line.value? "debug" = some t) : t = "true" := by
  obtain ⟨o, ho, hs, rfl⟩ := CommandLine.exists_of_value? serverCommand_wellNamed (.head _) h
  have hflag : o.switch.kind = .flag := hs ▸ rfl
  cases line.fits o ho with
  | flag => rfl
  | valued hmem hkind => exact absurd hflag hkind

theorem boolean_of_text? (hdebug : DebugIsBoolean line env) {t : String}
    (h : text? line.entries env "debug" "USERVEHICLE_DEBUG" = some t) : t = "true" ∨ t = "false" := by
  rcases Option.or_eq_some_iff.mp h with h | ⟨hnone, h⟩
  · exact .inl (value?_debug h)
  · exact hdebug hnone t h

theorem port_refusal?_eq_some_iff {t : String} {refusal : Refusal} :
    Kind.port.refusal? t = some refusal ↔ port? t = none ∧ refusal = .valueValidation := by
  rw [Kind.refusal?]
  cases port? t with
  | none => simp [eq_comm]
  | some n => simp

theorem refusal?_server (hdebug : DebugIsBoolean line env) {s : Switch} (hs : s ∈ serverCommand.switches)
    {refusal : Refusal} (h : s.refusal? line.entries env = some refusal) :
    refusal = .valueValidation ∧
      ∃ t, text? line.entries env "port" "USERVEHICLE_PORT" = some t ∧ port? t = none := by
  obtain ⟨t, ht, hr⟩ := Option.bind_eq_some_iff.mp h
  simp only [serverCommand, List.mem_cons, List.not_mem_nil, or_false] at hs
  rcases hs with rfl | rfl | rfl | rfl
  case inl =>
    rw [Kind.refusal?, if_pos (boolean_of_text? hdebug ht)] at hr
    cases hr
  case inr.inl =>
    obtain ⟨hport, rfl⟩ := port_refusal?_eq_some_iff.mp hr
    exact ⟨rfl, t, ht, hport⟩
  all_goals cases hr

/-! ## What the four texts decide -/

/-- The options that four texts decide, where there is one. -/
def decided (debug port listenAddress databasePath : Option String) : Except Refusal ServerOptions :=
  match port? (port.getD "9000") with
  | none => .error .valueValidation
  | some n =>
    .ok ⟨debug = some "true", n, listenAddress.getD "127.0.0.1", databasePath.getD defaultDatabase⟩

theorem port?_default : port? "9000" = some 9000 := by
  decide

theorem exists_decided_iff {debug port listenAddress databasePath : Option String} :
    (∃ o, decided debug port listenAddress databasePath = .ok o) ↔
      ∀ t, port = some t → ∃ n, DenotesPort t n := by
  have hport : (∃ n, port? (port.getD "9000") = some n) ↔ ∀ t, port = some t → ∃ n, DenotesPort t n := by
    cases port with
    | none => exact iff_of_true ⟨9000, port?_default⟩ nofun
    | some t =>
      simp only [Option.getD_some, port?_eq_some_iff, Option.some.injEq, forall_eq']
  rw [← hport, decided]
  cases port? (port.getD "9000") with
  | none => exact iff_of_false nofun nofun
  | some n => exact iff_of_true ⟨_, rfl⟩ ⟨n, rfl⟩

theorem ofSettings_settings :
    ofSettings ⟨serverCommand.switches.map fun s => (s.long, s.setting line.entries env), []⟩ =
      ⟨text? line.entries env "debug" "USERVEHICLE_DEBUG" = some "true",
        (port? ((text? line.entries env "port" "USERVEHICLE_PORT").getD "9000")).getD 0,
        (text? line.entries env "listen-address" "USERVEHICLE_LISTEN_ADDRESS").getD "127.0.0.1",
        (text? line.entries env "database-path" "USERVEHICLE_DATABASE_PATH").getD defaultDatabase⟩ := by
  have hflag (t : Option String) : t.getD "" = "true" ↔ t = some "true" := by
    cases t with
    | none => simp
    | some v => simp
  show ServerOptions.mk
      (((text? line.entries env "debug" "USERVEHICLE_DEBUG").or none).getD "" = "true")
      ((port? (((text? line.entries env "port" "USERVEHICLE_PORT").or (some "9000")).getD "")).getD 0)
      (((text? line.entries env "listen-address" "USERVEHICLE_LISTEN_ADDRESS").or
        (some "127.0.0.1")).getD "")
      (((text? line.entries env "database-path" "USERVEHICLE_DATABASE_PATH").or
        (some defaultDatabase)).getD "")
      = _
  simp only [Option.or_none, Option.or_some, Option.getD_some, hflag]

/-- Reading the server's arguments comes down to the four texts. -/
theorem parse_arguments (hdebug : DebugIsBoolean line env) :
    parse line.arguments env = decided (text? line.entries env "debug" "USERVEHICLE_DEBUG")
      (text? line.entries env "port" "USERVEHICLE_PORT")
      (text? line.entries env "listen-address" "USERVEHICLE_LISTEN_ADDRESS")
      (text? line.entries env "database-path" "USERVEHICLE_DATABASE_PATH") := by
  rw [parse, decided]
  cases hport : port? ((text? line.entries env "port" "USERVEHICLE_PORT").getD "9000") with
  | none =>
    cases ht : text? line.entries env "port" "USERVEHICLE_PORT" with
    | none =>
      rw [ht, Option.getD_none, port?_default] at hport
      cases hport
    | some t =>
      rw [ht, Option.getD_some] at hport
      have hrefused : ∃ s ∈ serverCommand.switches, s.refusal? line.entries env = some .valueValidation := by
        refine ⟨_, .tail _ (.head _), ?_⟩
        rw [Switch.refusal?, ht]
        exact port_refusal?_eq_some_iff.mpr ⟨hport, rfl⟩
      obtain ⟨s, hs, hr⟩ := hrefused
      rw [CommandLine.settings_of_refused serverCommand_wellNamed rfl
        (fun s hs e he => (refusal?_server hdebug hs he).1) hs hr]
      rfl
  | some n =>
    have hadmitted : ∀ s ∈ serverCommand.switches, s.refusal? line.entries env = none := by
      intro s hs
      cases hr : s.refusal? line.entries env with
      | none => rfl
      | some refusal =>
        obtain ⟨-, t, ht, hnone⟩ := refusal?_server hdebug hs hr
        rw [ht, Option.getD_some, hnone] at hport
        cases hport
    rw [CommandLine.settings_of_admitted serverCommand_wellNamed rfl hadmitted, Except.map,
      ofSettings_settings, hport]
    rfl

/-- Each option is what its text says, and the default where there is none. -/
structure Resolves (line : CommandLine serverCommand) (env : Environment) (o : ServerOptions) : Prop where
  debug : o.debug = true ↔ text? line.entries env "debug" "USERVEHICLE_DEBUG" = some "true"
  port : DenotesPort ((text? line.entries env "port" "USERVEHICLE_PORT").getD "9000") o.port
  listenAddress : o.listenAddress =
    (text? line.entries env "listen-address" "USERVEHICLE_LISTEN_ADDRESS").getD "127.0.0.1"
  databasePath : o.databasePath =
    (text? line.entries env "database-path" "USERVEHICLE_DATABASE_PATH").getD "uservehicle.sqlite"

theorem parse_eq_ok_iff (hdebug : DebugIsBoolean line env) {o : ServerOptions} :
    parse line.arguments env = .ok o ↔ Resolves line env o := by
  rw [parse_arguments hdebug, decided]
  constructor
  · intro h
    cases hport : port? ((text? line.entries env "port" "USERVEHICLE_PORT").getD "9000") with
    | none =>
      rw [hport] at h
      cases h
    | some n =>
      rw [hport] at h
      cases h
      exact ⟨decide_eq_true_iff, port?_eq_some_iff.mp hport, rfl, rfl⟩
  · intro h
    obtain ⟨hflag, hport, hlisten, hdatabase⟩ := h
    obtain ⟨debug, port, listenAddress, databasePath⟩ := o
    subst hlisten hdatabase
    rw [port?_eq_some_iff.mpr hport]
    simp only [← hflag, Bool.decide_eq_true]
    rfl

/-! ## What does not matter -/

/-- The two environments differ at most in variables that the command line overrides. -/
def Agree (line : CommandLine serverCommand) (env env' : Environment) : Prop :=
  ∀ s ∈ serverCommand.switches, line.value? s.long = none → env'.lookup s.envName = env.lookup s.envName

theorem Agree.text?_eq {env' : Environment} (h : Agree line env env') {s : Switch}
    (hs : s ∈ serverCommand.switches) :
    text? line.entries env' s.long s.envName = text? line.entries env s.long s.envName := by
  rw [text?, text?]
  cases hv : line.entries.lookup s.long with
  | none => rw [h s hs hv]
  | some t => rfl

theorem Agree.parse_eq {env' : Environment} (h : Agree line env env') (hdebug : DebugIsBoolean line env) :
    parse line.arguments env' = parse line.arguments env := by
  have hdebug' : DebugIsBoolean line env' := by
    intro hv v hv'
    exact hdebug hv v (h _ (.head _) hv ▸ hv')
  rw [parse_arguments hdebug, parse_arguments hdebug', h.text?_eq (.head _),
    h.text?_eq (.tail _ (.head _)), h.text?_eq (.tail _ (.tail _ (.head _))),
    h.text?_eq (.tail _ (.tail _ (.tail _ (.head _))))]

theorem parse_of_perm {line' : CommandLine serverCommand} (h : line.options.Perm line'.options)
    (hdebug : DebugIsBoolean line env) : parse line'.arguments env = parse line.arguments env := by
  have hvalue : ∀ name, line.entries.lookup name = line'.entries.lookup name :=
    CommandLine.value?_of_perm h
  have hdebug' : DebugIsBoolean line' env := fun hv => hdebug ((hvalue "debug").trans hv)
  rw [parse_arguments hdebug, parse_arguments hdebug']
  simp only [text?, hvalue]

end Arguments

/-- What the command line sets an option to comes before its variable, and that before the default. There are
options unless the text that decides the port denotes none. Variables that the command line overrides are not
looked at, and the order of the options does not matter. -/
theorem parse_resolves (line : CommandLine serverCommand) (env : Environment)
    (hdebug : ∀ v, env.lookup "USERVEHICLE_DEBUG" = some v → v = "true" ∨ v = "false") :
    ((∃ o, parse line.arguments env = .ok o) ↔
        ∀ t, text? line.entries env "port" "USERVEHICLE_PORT" = some t → ∃ n, DenotesPort t n) ∧
      (∀ o, parse line.arguments env = .ok o ↔ Resolves line env o) ∧
      (∀ env', Agree line env env' → parse line.arguments env' = parse line.arguments env) ∧
      ∀ line' : CommandLine serverCommand, line.options.Perm line'.options →
        parse line'.arguments env = parse line.arguments env := by
  have hboolean : DebugIsBoolean line env := fun _ => hdebug
  refine ⟨?_, fun o => parse_eq_ok_iff hboolean, fun env' h => h.parse_eq hboolean,
    fun line' h => parse_of_perm h hboolean⟩
  rw [parse_arguments hboolean]
  exact exists_decided_iff

/-- An option in each spelling, and a flag between them. -/
def spelledEachWay : CommandLine serverCommand where
  options := [.valued (serverCommand.switches.get ⟨1, by decide⟩) (.letter 'p') "+0080",
    .valued (serverCommand.switches.get ⟨2, by decide⟩) .name "::1",
    .flag (serverCommand.switches.get ⟨0, by decide⟩),
    .valued (serverCommand.switches.get ⟨3, by decide⟩) .joined "a=b"]
  fits := by
    intro o ho
    simp only [List.mem_cons, List.not_mem_nil, or_false] at ho
    rcases ho with rfl | rfl | rfl | rfl
    · exact .valued (List.get_mem _ _) (by decide) (fun x hx => by cases hx; rfl) (by decide)
    · exact .valued (List.get_mem _ _) (by decide) nofun (by decide)
    · exact .flag (List.get_mem _ _) rfl
    · exact .valued (List.get_mem _ _) (by decide) nofun (by decide)
  once := by decide

def spelledBackwards : CommandLine serverCommand where
  options := spelledEachWay.options.reverse
  fits := fun o ho => spelledEachWay.fits o (List.mem_reverse.mp ho)
  once := by decide

/-- The variables of the port and of the flag are overridden, so it does not matter that the one is out of
bounds and the other false, or that neither makes sense. -/
theorem parse_resolves_of_each_spelling :
    spelledEachWay.arguments =
        ["-p", "+0080", "--listen-address", "::1", "--debug", "--database-path=a=b"] ∧
      (∀ v, [("USERVEHICLE_PORT", "65616"), ("USERVEHICLE_DEBUG", "false")].lookup
        "USERVEHICLE_DEBUG" = some v → v = "true" ∨ v = "false") ∧
      parse spelledEachWay.arguments [("USERVEHICLE_PORT", "65616"), ("USERVEHICLE_DEBUG", "false")] =
        .ok ⟨true, 80, "::1", "a=b"⟩ ∧
      parse spelledEachWay.arguments [("USERVEHICLE_PORT", "a"), ("USERVEHICLE_DEBUG", "b")] =
        .ok ⟨true, 80, "::1", "a=b"⟩ ∧
      parse spelledBackwards.arguments [("USERVEHICLE_PORT", "65616"), ("USERVEHICLE_DEBUG", "false")] =
        .ok ⟨true, 80, "::1", "a=b"⟩ := by
  have hdebug : ∀ v, [("USERVEHICLE_PORT", "65616"), ("USERVEHICLE_DEBUG", "false")].lookup
      "USERVEHICLE_DEBUG" = some v → v = "true" ∨ v = "false" := by
    intro v hv
    cases hv
    exact .inr rfl
  obtain ⟨-, hresolves, hagree, hperm⟩ := parse_resolves spelledEachWay _ hdebug
  have hparse := (hresolves ⟨true, 80, "::1", "a=b"⟩).mpr
    ⟨iff_of_true rfl rfl, port?_eq_some_iff.mp rfl, rfl, rfl⟩
  refine ⟨rfl, hdebug, hparse, ?_, ?_⟩
  · rw [hagree, hparse]
    intro s hs hv
    simp only [serverCommand, List.mem_cons, List.not_mem_nil, or_false] at hs
    rcases hs with rfl | rfl | rfl | rfl
    · cases hv
    · cases hv
    · rfl
    · rfl
  · rw [hperm spelledBackwards (List.reverse_perm _).symm, hparse]

end ServerOptions

end Garage.Options

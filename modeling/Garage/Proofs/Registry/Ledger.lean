import Garage.Proofs.Registry.Run
import Garage.Proofs.Web.Views
import Mathlib.Data.Finset.Card
import Mathlib.Logic.Function.Basic

/-!
# The registry is a ledger

A ledger says who drives what, and nothing else. `Responds` and `Step` are its rules: what a request is
answered, and what any call is answered and makes of the ledger. A database represents the ledger that
is read off its table; each step of the ledger is then what the database does, as long as there are ids
left, so a run of calls on a new database is answered as the empty ledger has it.
-/

namespace Garage

open Garage.Registry (Answer Call emptyDetails)
open Garage.Text (Utf8.decode?)
open Garage.Web (Names ShowsVehicle View)

/-- Who drives what. -/
abbrev Ledger := String → Option Details

namespace Ledger

/-- Nobody drives anything. -/
def empty : Ledger := fun _ => none

/-- Enters a vehicle, in place of any that there was. -/
def enter (m : Ledger) (u : String) (d : Details) : Ledger := Function.update m u (some d)

theorem enter_self (m : Ledger) (u : String) (d : Details) : m.enter u d u = some d := by
  rw [enter, Function.update_self]

theorem enter_of_ne (m : Ledger) {u v : String} (h : v ≠ u) (d : Details) : m.enter u d v = m v := by
  rw [enter, Function.update_of_ne h]

/-- What the ledger tells of a username, which is taken as it is. -/
def tells (m : Ledger) (u : String) : Web.Lookup :=
  match m u with
  | some d => .ok d
  | none => .error (.userNotFound u)

theorem tells_of_some {m : Ledger} {u : String} {d : Details} (h : m u = some d) :
    m.tells u = .ok d := by
  rw [tells, h]

theorem tells_of_none {m : Ledger} {u : String} (h : m u = none) :
    m.tells u = .error (.userNotFound u) := by
  rw [tells, h]

/-! ## The rules -/

/-- The answer for a user who drives nothing: a page of its own, and else two words. -/
def missing (view : View) (u : String) : Http.Response :=
  match view with
  | .page => .typed 404 Web.htmlText (Html.notFoundPage u)
  | .text | .json => ⟨404, [], "Not Found"⟩

/-- What a request is answered. The path counts first, then the method, then the name in the path, and only
then the ledger. A `HEAD` is answered with the status and the headers of the `GET`, and an empty body. -/
inductive Responds (m : Ledger) : Http.Request → Http.Response → Prop
  | elsewhere {r : Http.Request} (hp : ¬ ∃ segment view, ShowsVehicle r.path segment view) :
    Responds m r (Web.unknownPath r.path)
  | notAllowed {r : Http.Request} {segment : List Char} {view : View}
    (hs : ShowsVehicle r.path segment view) (hm : ¬ r.method.Reads) : Responds m r Web.unknownMethod
  | undecodable {path segment : List Char} {view : View} (hs : ShowsVehicle path segment view)
    (hd : Utf8.decode? (Text.Percent.decode segment) = none) :
    Responds m ⟨.get, path⟩ Web.undecodable.measured
  | refused {path segment : List Char} {view : View} {name : List Char} {fault : Username.Fault}
    (hs : ShowsVehicle path segment view)
    (hd : Utf8.decode? (Text.Percent.decode segment) = some name)
    (hf : Username.canonical (String.ofList name) = .error fault) :
    Responds m ⟨.get, path⟩ (Http.Response.mk 400 [] "Bad Request").measured
  | missing {path segment : List Char} {view : View} {u : String}
    (hs : ShowsVehicle path segment view) (hn : Names segment u) (hm : m u = none) :
    Responds m ⟨.get, path⟩ (missing view u).measured
  | found {path segment : List Char} {view : View} {u : String} {d : Details}
    (hs : ShowsVehicle path segment view) (hn : Names segment u) (hm : m u = some d) :
    Responds m ⟨.get, path⟩ (view.found u d).measured
  | head {path : List Char} {x : Http.Response} (h : Responds m ⟨.get, path⟩ x) :
    Responds m ⟨.head, path⟩ ⟨x.status, x.headers, ""⟩

/-- What a call is answered, and the ledger afterwards. A vehicle is entered under the canonical name, without
the blanks around make and model; nothing else changes the ledger. -/
inductive Step (m : Ledger) : Call → Answer → Ledger → Prop
  | refused {name : String} {d : Details} {fault : Username.Fault}
    (hf : Username.canonical name = .error fault) :
    Step m (.register name d) (.registration (.error (.badRequest fault.reason))) m
  | blank {name u : String} {d : Details} (hu : Username.canonical name = .ok u)
    (hb : d.trimmed.IsBlank) : Step m (.register name d) (.registration (.error emptyDetails)) m
  | entered {name u : String} {d : Details} (hu : Username.canonical name = .ok u)
    (hb : ¬ d.trimmed.IsBlank) :
    Step m (.register name d) (.registration (.ok ())) (m.enter u d.trimmed)
  | said (u : String) : Step m (.lookup u) (.lookup (m.tells u)) m
  | responded {r : Http.Request} {x : Http.Response} (h : m.Responds r x) :
    Step m (.request r) (.response (.ok x)) m

/-- What calls are answered, one after the other, and the ledger afterwards. -/
inductive Run : Ledger → List Call → List Answer → Ledger → Prop
  | nil (m : Ledger) : Run m [] [] m
  | cons {m m' m'' : Ledger} {call : Call} {answer : Answer} {calls : List Call}
    {answers : List Answer} (step : m.Step call answer m') (rest : Run m' calls answers m'') :
    Run m (call :: calls) (answer :: answers) m''

/-! ## The rules leave nothing open -/

theorem exists_responds_get (m : Ledger) (path : List Char) : ∃ x, m.Responds ⟨.get, path⟩ x := by
  by_cases hp : ∃ segment view, ShowsVehicle path segment view
  · obtain ⟨segment, view, hs⟩ := hp
    cases hd : Utf8.decode? (Text.Percent.decode segment) with
    | none => exact ⟨_, .undecodable hs hd⟩
    | some name =>
      cases hu : Username.canonical (String.ofList name) with
      | error fault => exact ⟨_, .refused hs hd hu⟩
      | ok u =>
        have hn : Names segment u := ⟨name, hd, hu⟩
        cases hm : m u with
        | none => exact ⟨_, .missing hs hn hm⟩
        | some d => exact ⟨_, .found hs hn hm⟩
  · exact ⟨_, .elsewhere hp⟩

theorem exists_responds (m : Ledger) (r : Http.Request) : ∃ x, m.Responds r x := by
  obtain ⟨method, path⟩ := r
  cases method with
  | get => exact m.exists_responds_get path
  | head =>
    obtain ⟨x, h⟩ := m.exists_responds_get path
    exact ⟨_, .head h⟩
  | other name =>
    by_cases hp : ∃ segment view, ShowsVehicle path segment view
    · obtain ⟨segment, view, hs⟩ := hp
      exact ⟨_, .notAllowed hs (by rintro (h | h) <;> cases h)⟩
    · exact ⟨_, .elsewhere hp⟩

theorem exists_step (m : Ledger) (call : Call) : ∃ answer m', m.Step call answer m' := by
  cases call with
  | register name d =>
    cases hu : Username.canonical name with
    | error fault => exact ⟨_, _, .refused hu⟩
    | ok u =>
      by_cases hb : d.trimmed.IsBlank
      · exact ⟨_, _, .blank hu hb⟩
      · exact ⟨_, _, .entered hu hb⟩
  | lookup u => exact ⟨_, _, .said u⟩
  | request r =>
    obtain ⟨x, h⟩ := m.exists_responds r
    exact ⟨_, _, .responded h⟩

theorem exists_run (m : Ledger) (calls : List Call) : ∃ answers m', m.Run calls answers m' := by
  induction calls generalizing m with
  | nil => exact ⟨_, _, .nil m⟩
  | cons call rest ih =>
    obtain ⟨answer, m', hstep⟩ := m.exists_step call
    obtain ⟨answers, m'', hrest⟩ := ih m'
    exact ⟨_, _, .cons hstep hrest⟩

/-! ## Requests -/

theorem missing_eq (view : View) (u : String) :
    missing view u = (view.failed (.userNotFound u)).response := by
  cases view <;> rfl

theorem reply_withoutBody (service : String → Web.Lookup) (p : Web.Plan) :
    (p.withoutBody.reply service).response = (p.reply service).response.withoutBody := by
  cases p <;> rfl

/-- A request is answered as by a service that tells what the ledger tells. -/
theorem Responds.eq_reply {m : Ledger} {r : Http.Request} {x : Http.Response}
    (h : m.Responds r x) : x = ((Web.plan r).reply m.tells).response := by
  induction h with
  | elsewhere hp =>
    rw [Web.plan_of_elsewhere hp]
    rfl
  | notAllowed hs hm =>
    rw [Web.plan_of_not_reads hs hm]
    rfl
  | @undecodable path segment view hs hd =>
    have hn : (Web.Route.mk segment view).username? = none := by
      rw [Web.Route.username?, hd, Option.map_none]
    rw [Web.plan_of_reads hs (Or.inl rfl), Web.planRoute_of_undecodable _ hn]
    rfl
  | @refused path segment view name fault hs hd hf =>
    have hn : (Web.Route.mk segment view).username? = some (String.ofList name) := by
      rw [Web.Route.username?, hd, Option.map_some]
    rw [Web.plan_of_reads hs (Or.inl rfl), Web.planRoute_of_fault _ hn hf]
    rfl
  | missing hs hn hm =>
    rw [Web.plan_of_reads hs (Or.inl rfl), Web.planRoute_of_names _ _ hn, Web.Plan.reply,
      tells_of_none hm, missing_eq]
    rfl
  | found hs hn hm =>
    rw [Web.plan_of_reads hs (Or.inl rfl), Web.planRoute_of_names _ _ hn, Web.Plan.reply,
      tells_of_some hm]
    rfl
  | head h ih =>
    rw [Web.plan_head, reply_withoutBody, ← ih]
    rfl

/-- What answers to `GET` show: the status tells whether the name is refused, the user unknown or a vehicle
found, and the body shows a reader just the vehicle that the user drives. -/
theorem Responds.shows {m : Ledger} {path segment : List Char} {view : View} {x : Http.Response}
    (hs : ShowsVehicle path segment view) (h : m.Responds ⟨.get, path⟩ x) :
    ((¬ ∃ u, Names segment u) → x.status = 400) ∧
    (∀ u, Names segment u → m u = none → x.status = 404 ∧
      (view = .page → Html.bodyText x.body = "No vehicle registered for " ++ u)) ∧
    (∀ u d, Names segment u → m u = some d → x.status = 200 ∧ view.Shows x.body d) := by
  obtain ⟨rfl, hclosed⟩ := hs
  obtain rfl : x = Web.viewed m.tells segment view := h.eq_reply
  refine ⟨?_, ?_, ?_⟩
  · intro hn
    obtain ⟨response, h400, hr⟩ := Web.viewed_of_not_names m.tells hclosed hn
    rw [hr, h400]
  · intro u hn hm
    have hu := tells_of_none hm
    refine ⟨Web.status_viewed_of_error hclosed hn hu view, ?_⟩
    rintro rfl
    rw [Web.viewed_of_error hclosed hn hu]
    exact Html.bodyText_notFoundPage u
  · exact fun u d hn hm => Web.viewed_of_ok hclosed hn (tells_of_some hm) view

end Ledger

/-! ## The ledger of a table -/

namespace Registry

open Garage.Store (Database Row Table)

/-- The ledger that is read off a table. -/
def ledger (t : Table) : Ledger := fun u => (t.find? u).map fun row => ⟨row.make, row.model⟩

theorem ledger_empty : ledger .empty = Ledger.empty := rfl

theorem ledger_of_found {t : Table} {u : String} {row : Row} (hr : t.find? u = some row) :
    ledger t u = some ⟨row.make, row.model⟩ := by
  rw [ledger, hr, Option.map_some]

theorem ledger_of_none {t : Table} {u : String} (hr : t.find? u = none) : ledger t u = none := by
  rw [ledger, hr, Option.map_none]

theorem ledger_replace {t : Table} (h : t.Numbered) {u : String} {row : Row}
    (hr : t.find? u = some row) (d : Details) :
    ledger (t.replace row.id d.make d.model) = (ledger t).enter u d := by
  funext v
  by_cases hv : v = u
  · subst hv
    rw [Ledger.enter_self, ledger, Table.find?_replace, hr, Option.map_some, if_pos rfl,
      Option.map_some]
  · rw [Ledger.enter_of_ne _ hv, ledger, ledger, Table.find?_replace_of_ne h.nodup hr hv]

theorem ledger_add {t : Table} {u : String} (hr : t.find? u = none) (d : Details) :
    ledger (t.add u d.make d.model) = (ledger t).enter u d := by
  funext v
  by_cases hv : v = u
  · subst hv
    rw [Ledger.enter_self, ledger, Table.find?_add, hr, if_pos rfl]
    rfl
  · rw [Ledger.enter_of_ne _ hv, ledger, Table.find?_add, if_neg (Ne.symm hv), Option.or_none]
    rfl

/-- The service tells what the ledger of its table tells. -/
theorem lookup_eq_tells {t : Table} (h : Sound t) (applied : List Store.Migration) :
    lookup ⟨some t, applied⟩ = (ledger t).tells := by
  funext u
  cases hr : t.find? u with
  | none => rw [Ledger.tells_of_none (ledger_of_none hr), lookup, find_of_none hr]
  | some row =>
    have hread := h.isReadable (Table.mem_of_find? hr)
    rw [Ledger.tells_of_some (ledger_of_found hr), lookup, find_of_found hr hread]

/-! ## Runs -/

/-- The user whom a call registers, unless it is refused. -/
def Call.user? : Call → Option String
  | .register name d => if d.trimmed.IsBlank then none else (Username.canonical name).toOption
  | _ => none

theorem Call.user?_register {name u : String} {d : Details} (hu : Username.canonical name = .ok u)
    (hb : ¬ d.trimmed.IsBlank) : (Call.register name d).user? = some u := by
  rw [Call.user?, if_neg hb, hu]
  rfl

/-- The table is sound, its ledger is this one, and its users are among these. -/
structure Represents (users : Finset String) (db : Database) (m : Ledger) (t : Table) : Prop where
  table : db.table = some t
  sound : Sound t
  ledger_eq : ledger t = m
  mem_users : ∀ row ∈ t.rows, row.username ∈ users

theorem represents_migrated (users : Finset String) :
    Represents users .migrated .empty .empty :=
  ⟨rfl, sound_empty, ledger_empty, fun _ hm => absurd hm List.not_mem_nil⟩

/-- As long as users are fewer than the ids that can be read back, there is an id for a new one. -/
theorem Represents.nextId_le {users : Finset String} {db : Database} {m : Ledger} {t : Table}
    (h : Represents users db m t) (hroom : users.card < 2 ^ 31) {u : String} (hu : u ∈ users)
    (hr : t.find? u = none) : t.nextId ≤ Store.maxId := by
  have hn : (u :: t.rows.map Row.username).Nodup :=
    List.nodup_cons.mpr ⟨Table.find?_eq_none_iff.mp hr, h.sound.usernames⟩
  have hsub : (u :: t.rows.map Row.username).toFinset ⊆ users := by
    intro v hv
    rcases List.mem_cons.mp (List.mem_toFinset.mp hv) with rfl | hv
    · exact hu
    · obtain ⟨row, hm, rfl⟩ := List.mem_map.mp hv
      exact h.mem_users row hm
  have hcard := Finset.card_le_card hsub
  rw [List.toFinset_card_of_nodup hn, List.length_cons, List.length_map,
    h.sound.numbered.length_eq] at hcard
  rw [Table.nextId, Store.maxId]
  omega

/-- A step of the ledger is what the database does. -/
theorem Represents.step {users : Finset String} {db : Database} {m m' : Ledger} {t : Table}
    {call : Call} {answer : Answer} (h : Represents users db m t) (hroom : users.card < 2 ^ 31)
    (hcall : ∀ u, call.user? = some u → u ∈ users) (hstep : m.Step call answer m') :
    ∃ t', (perform db call).1 = answer ∧ Represents users (perform db call).2 m' t' := by
  obtain ⟨table, applied⟩ := db
  obtain rfl : table = some t := h.table
  have hs := h.sound
  obtain rfl := h.ledger_eq
  cases hstep with
  | refused hf =>
    rw [perform, register_of_fault hf]
    exact ⟨t, rfl, h⟩
  | blank hu hb =>
    rw [perform, register_of_blank hu hb]
    exact ⟨t, rfl, h⟩
  | @entered name u d hu hb =>
    rw [perform, register_eq_write hu hb]
    have hmem := hcall u (Call.user?_register hu hb)
    cases hr : t.find? u with
    | some row =>
      rw [write_of_found hr (hs.isReadable (Table.mem_of_find? hr))]
      exact ⟨_, rfl, rfl, hs.replace hb row.id, ledger_replace hs.numbered hr _,
        Table.forall_rows_replace h.mem_users h.mem_users row.id⟩
    | none =>
      have hid := h.nextId_le hroom hmem hr
      rw [write_of_new hr hs.numbered.bounded.nextId_not_mem hid]
      exact ⟨_, rfl, rfl, hs.add hb (Username.isCanonical_of_canonical hu) hr hid, ledger_add hr _,
        Table.forall_rows_add h.mem_users hmem⟩
  | said u =>
    rw [perform, lookup_eq_tells hs]
    exact ⟨t, rfl, h⟩
  | responded hx =>
    rw [perform_request, lookup_eq_tells hs, ← hx.eq_reply]
    exact ⟨t, rfl, h⟩

/-- A run of the ledger is what the database does, call by call. -/
theorem Represents.run {users : Finset String} {db : Database} {m m' : Ledger} {t : Table}
    {calls : List Call} {answers : List Answer} (h : Represents users db m t)
    (hroom : users.card < 2 ^ 31) (hcalls : ∀ call ∈ calls, ∀ u, call.user? = some u → u ∈ users)
    (hrun : m.Run calls answers m') :
    ∃ t', answers = (run db calls).1 ∧ Represents users (run db calls).2 m' t' := by
  induction hrun generalizing db t with
  | nil m => exact ⟨t, rfl, h⟩
  | cons hstep hrest ih =>
    obtain ⟨t', ha, h'⟩ := h.step hroom (hcalls _ List.mem_cons_self) hstep
    obtain ⟨t'', has, h''⟩ := ih h' fun call hm => hcalls call (List.mem_cons_of_mem _ hm)
    rw [Registry.run, ha, has]
    exact ⟨t'', rfl, h''⟩

/-- On a new database, and with ids enough for all who are to be registered, any calls in any order are
answered as the ledger has it: its rules allow the answers of the database and no others, and afterwards
the service tells what the ledger tells. By the same rules a `GET` is answered with a status that tells
apart a refused name, an unknown user and a known one, and shows a reader just what the user drives. -/
theorem run_refines_ledger (calls : List Call)
    (hroom : (calls.filterMap Call.user?).toFinset.card < 2 ^ 31) :
    (∀ answers, (∃ m, Ledger.empty.Run calls answers m) ↔ answers = (run .migrated calls).1) ∧
    (∀ answers m, Ledger.empty.Run calls answers m →
      ∀ u, lookup (run .migrated calls).2 u = m.tells u) ∧
    (∀ (m : Ledger) path segment view response, ShowsVehicle path segment view →
      m.Responds ⟨.get, path⟩ response →
      ((¬ ∃ u, Names segment u) → response.status = 400) ∧
      (∀ u, Names segment u → m u = none → response.status = 404 ∧
        (view = .page → Html.bodyText response.body = "No vehicle registered for " ++ u)) ∧
      (∀ u d, Names segment u → m u = some d →
        response.status = 200 ∧ view.Shows response.body d)) := by
  have hcalls : ∀ call ∈ calls, ∀ u, call.user? = some u →
      u ∈ (calls.filterMap Call.user?).toFinset := by
    intro call hm u hu
    rw [List.mem_toFinset, List.mem_filterMap]
    exact ⟨call, hm, hu⟩
  have hrun : ∀ answers m, Ledger.empty.Run calls answers m →
      ∃ t, answers = (run .migrated calls).1 ∧ Represents _ (run .migrated calls).2 m t :=
    fun answers m h => (represents_migrated _).run hroom hcalls h
  refine ⟨?_, ?_, ?_⟩
  · intro answers
    constructor
    · rintro ⟨m, h⟩
      obtain ⟨t, ha, -⟩ := hrun answers m h
      exact ha
    · rintro rfl
      obtain ⟨answers, m, h⟩ := Ledger.empty.exists_run calls
      obtain ⟨t, ha, -⟩ := hrun answers m h
      exact ⟨m, ha ▸ h⟩
  · intro answers m h u
    obtain ⟨t, -, ht⟩ := hrun answers m h
    have hdb : (run .migrated calls).2 = ⟨some t, (run .migrated calls).2.applied⟩ := by
      rw [← ht.table]
    rw [hdb, lookup_eq_tells ht.sound, ht.ledger_eq]
  · exact fun m path segment view response hs h => h.shows hs

/-- A vehicle is registered, then replaced under another spelling of the name, and then asked for. -/
theorem run_refines_ledger_of_replacement :
    (([.register "sboot" ⟨"Honda", "Civic"⟩, .register "SBoot " ⟨" Mazda", "MX-5 "⟩,
      .request ⟨.get, '/' :: (['s', 'b', 'o', 'o', 't'] ++ View.text.tail.toList)⟩] :
      List Call).filterMap Call.user?).toFinset.card < 2 ^ 31 ∧
    (run .migrated [.register "sboot" ⟨"Honda", "Civic"⟩, .register "SBoot " ⟨" Mazda", "MX-5 "⟩,
      .request ⟨.get, '/' :: (['s', 'b', 'o', 'o', 't'] ++ View.text.tail.toList)⟩]).1 =
      [.registration (.ok ()), .registration (.ok ()), .response (.ok ⟨200,
        [("content-type", "text/plain; charset=utf-8"), ("content-length", "10")], "Mazda MX-5"⟩)] := by
  have hroom : (([.register "sboot" ⟨"Honda", "Civic"⟩, .register "SBoot " ⟨" Mazda", "MX-5 "⟩,
      .request ⟨.get, '/' :: (['s', 'b', 'o', 'o', 't'] ++ View.text.tail.toList)⟩] :
      List Call).filterMap Call.user?).toFinset.card < 2 ^ 31 := by decide +kernel
  have hfirst : Username.canonical "sboot" = .ok "sboot" := by decide +kernel
  have hsecond : Username.canonical "SBoot " = .ok "sboot" := by decide +kernel
  have hshows : ShowsVehicle ('/' :: (['s', 'b', 'o', 'o', 't'] ++ View.text.tail.toList))
      ['s', 'b', 'o', 'o', 't'] .text := ⟨rfl, by decide⟩
  have hnames : Names ['s', 'b', 'o', 'o', 't'] "sboot" :=
    ⟨['s', 'b', 'o', 'o', 't'], by decide +kernel, by decide +kernel⟩
  have hbody : (View.text.found "sboot" (Details.trimmed ⟨" Mazda", "MX-5 "⟩)).measured =
      ⟨200, [("content-type", "text/plain; charset=utf-8"), ("content-length", "10")],
        "Mazda MX-5"⟩ := by decide +kernel
  rw [← hbody]
  exact ⟨hroom, (((run_refines_ledger _ hroom).1 _).mp ⟨_, .cons (.entered hfirst (by decide +kernel))
    (.cons (.entered hsecond (by decide +kernel)) (.cons (.responded (.found hshows hnames
      (Ledger.enter_self _ _ _))) (.nil _)))⟩).symm⟩

end Registry

end Garage

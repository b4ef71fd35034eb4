import Garage.Proofs.Web.Route

/-!
# Dispatch

What a request asks for is read off its path and its method: the path decides first, then the method,
then the username in the path. The service is asked once when all three are in order, and not at all
otherwise. `serve` carries a request out and keeps a record of whom the service was asked for.
-/

namespace Garage.Http

/-- The method is `GET` or `HEAD`. -/
def Method.Reads (m : Method) : Prop := m = .get ∨ m = .head

end Garage.Http

namespace Garage.Web

open Garage.Text (Utf8.encode)

/-! ## What is planned -/

theorem plan_of_elsewhere {r : Http.Request}
    (h : ¬ ∃ segment view, ShowsVehicle r.path segment view) :
    plan r = .answer ⟨unknownPath r.path, []⟩ := by
  rw [plan, ofPath?_eq_none_iff.mpr h]

theorem plan_of_not_reads {r : Http.Request} {segment : List Char} {view : View}
    (hs : ShowsVehicle r.path segment view) (hm : ¬ r.method.Reads) :
    plan r = .answer ⟨unknownMethod, []⟩ := by
  rw [plan, ofPath?_of_shows hs]
  cases hr : r.method with
  | get => exact absurd (Or.inl hr) hm
  | head => exact absurd (Or.inr hr) hm
  | other name => rfl

theorem plan_of_reads {r : Http.Request} {segment : List Char} {view : View}
    (hs : ShowsVehicle r.path segment view) (hm : r.method.Reads) :
    plan r = planRoute r.method ⟨segment, view⟩ := by
  rw [plan, ofPath?_of_shows hs]
  rcases hm with hm | hm <;> rw [hm]

theorem planRoute_of_undecodable {segment : List Char} {view : View} (method : Http.Method)
    (h : (Route.mk segment view).username? = none) :
    planRoute method ⟨segment, view⟩ = .answer (complete method ⟨undecodable, []⟩) := by
  rw [planRoute, h]

theorem planRoute_of_fault {segment : List Char} {view : View} {name : String}
    {fault : Username.Fault} (method : Http.Method)
    (hn : (Route.mk segment view).username? = some name) (hf : Username.canonical name = .error fault) :
    planRoute method ⟨segment, view⟩ =
      .answer (complete method (Failure.badRequest fault.reason).reply) := by
  rw [planRoute, hn]
  simp only [hf]

theorem planRoute_of_names {segment : List Char} {u : String} (method : Http.Method) (view : View)
    (h : Names segment u) :
    planRoute method ⟨segment, view⟩ =
      .lookup u fun result => complete method (view.reply u result) := by
  obtain ⟨name, hn, hc⟩ := (names_iff view).mp h
  rw [planRoute, hn]
  simp only [hc]

/-- A segment that names nobody is refused in the same way whatever the view. -/
theorem planRoute_of_not_names {segment : List Char} (h : ¬ ∃ u, Names segment u) :
    ∃ reply : Reply, reply.response.status = 400 ∧
      ∀ method view, planRoute method ⟨segment, view⟩ = .answer (complete method reply) := by
  cases hd : (Route.mk segment .text).username? with
  | none => exact ⟨⟨undecodable, []⟩, rfl, fun method _ => planRoute_of_undecodable method hd⟩
  | some name =>
    cases hc : Username.canonical name with
    | error fault => exact ⟨_, rfl, fun method _ => planRoute_of_fault method hd hc⟩
    | ok u => exact absurd ⟨u, (names_iff .text).mpr ⟨name, hd, hc⟩⟩ h

theorem status_complete (method : Http.Method) (reply : Reply) :
    (complete method reply).response.status = reply.response.status := by
  rw [complete]
  dsimp only
  split <;> rfl

/-! ## Who is asked for -/

/-- The request asks for the vehicle of this user. -/
def AsksFor (r : Http.Request) (username : String) : Prop :=
  r.method.Reads ∧ ∃ segment view, ShowsVehicle r.path segment view ∧ Names segment username

theorem username?_plan_eq_some_iff {r : Http.Request} {u : String} :
    (plan r).username? = some u ↔ AsksFor r u := by
  constructor
  · intro h
    by_cases hp : ∃ segment view, ShowsVehicle r.path segment view
    · obtain ⟨segment, view, hs⟩ := hp
      by_cases hm : r.method.Reads
      · rw [plan_of_reads hs hm] at h
        by_cases hn : ∃ v, Names segment v
        · obtain ⟨v, hv⟩ := hn
          rw [planRoute_of_names _ _ hv] at h
          cases h
          exact ⟨hm, segment, view, hs, hv⟩
        · obtain ⟨reply, -, hr⟩ := planRoute_of_not_names hn
          rw [hr] at h
          cases h
      · rw [plan_of_not_reads hs hm] at h
        cases h
    · rw [plan_of_elsewhere hp] at h
      cases h
  · rintro ⟨hm, segment, view, hs, hu⟩
    rw [plan_of_reads hs hm, planRoute_of_names _ _ hu]
    rfl

/-- What asks for a user is answered by one lookup. -/
theorem plan_of_asksFor {r : Http.Request} {u : String} (h : AsksFor r u) :
    ∃ segment view, ShowsVehicle r.path segment view ∧
      plan r = .lookup u fun result => complete r.method (view.reply u result) := by
  obtain ⟨hm, segment, view, hs, hu⟩ := h
  exact ⟨segment, view, hs, (plan_of_reads hs hm).trans (planRoute_of_names _ _ hu)⟩

/-- A request asks for one user at most. -/
theorem asksFor_unique {r : Http.Request} {u v : String} (hu : AsksFor r u) (hv : AsksFor r v) :
    u = v :=
  Option.some.inj
    ((username?_plan_eq_some_iff.mpr hu).symm.trans (username?_plan_eq_some_iff.mpr hv))

section Lookups

variable {σ : Type} (service : String → σ → Except Crash Lookup × σ) (u : String)
  (finish : Lookup → Reply) (s : σ)

theorem result_run_lookup :
    ((Plan.lookup u finish).run service s).1.result =
      (service u s).1.map fun result => (finish result).response := by
  rw [Plan.run]
  rcases service u s with ⟨_ | result, s'⟩ <;> rfl

theorem state_run_lookup : ((Plan.lookup u finish).run service s).2 = (service u s).2 := by
  rw [Plan.run]
  rcases service u s with ⟨_ | result, s'⟩ <;> rfl

end Lookups

/-- A service that also keeps whom it was asked for, the latest last. -/
def noting {σ : Type} (service : String → σ → Except Crash Lookup × σ) (username : String)
    (s : σ × List String) : Except Crash Lookup × σ × List String :=
  ((service username s.1).1, (service username s.1).2, s.2 ++ [username])

/-- What came of a request, the service afterwards, and whom it was asked for. -/
structure Served (σ : Type) where
  outcome : Outcome
  state : σ
  asked : List String

/-- Carries a request out, and keeps whom the service is asked for. -/
def serve {σ : Type} (service : String → σ → Except Crash Lookup × σ) (s : σ) (r : Http.Request) :
    Served σ :=
  let done := (plan r).run (noting service) (s, [])
  ⟨done.1, done.2.1, done.2.2⟩

/-- Keeping the record changes nothing else. -/
theorem run_noting {σ : Type} (service : String → σ → Except Crash Lookup × σ) (p : Plan) (s : σ)
    (asked : List String) :
    p.run (noting service) (s, asked) =
      ((p.run service s).1, (p.run service s).2, asked ++ p.username?.toList) := by
  cases p with
  | answer r => simp [Plan.run, Plan.username?]
  | lookup u finish =>
    simp only [Plan.run, noting, Plan.username?, Option.toList_some]
    cases hs : service u s with
    | mk answer t => cases answer <;> rfl

theorem serve_eq {σ : Type} (service : String → σ → Except Crash Lookup × σ) (s : σ)
    (r : Http.Request) :
    serve service s r =
      ⟨((plan r).run service s).1, ((plan r).run service s).2, (plan r).username?.toList⟩ := by
  rw [serve, run_noting]
  rfl

/-! ## HEAD -/

/-- The same answer to whomever, its body dropped. -/
def Plan.withoutBody : Plan → Plan
  | answer reply => .answer ⟨reply.response.withoutBody, reply.log⟩
  | lookup username finish =>
    .lookup username fun result => ⟨(finish result).response.withoutBody, (finish result).log⟩

theorem username?_withoutBody (p : Plan) : p.withoutBody.username? = p.username? := by
  cases p <;> rfl

/-- Only what comes of the request loses something, and that is the body. -/
theorem run_withoutBody {σ : Type} (service : String → σ → Except Crash Lookup × σ) (p : Plan)
    (s : σ) :
    p.withoutBody.run service s =
      (⟨(p.run service s).1.result.map Http.Response.withoutBody, (p.run service s).1.log⟩,
        (p.run service s).2) := by
  cases p with
  | answer reply => rfl
  | lookup u finish =>
    simp only [Plan.withoutBody, Plan.run]
    cases service u s with
    | mk answer t => cases answer <;> rfl

theorem withoutBody_unknownPath (path : List Char) :
    (unknownPath path).withoutBody = unknownPath path := by
  unfold unknownPath
  split <;> rfl

/-- A `HEAD` asks for what the `GET` of the same path asks for, and loses the body only. -/
theorem plan_head (path : List Char) : plan ⟨.head, path⟩ = (plan ⟨.get, path⟩).withoutBody := by
  by_cases hp : ∃ segment view, ShowsVehicle path segment view
  · obtain ⟨segment, view, hs⟩ := hp
    rw [plan_of_reads (r := ⟨.head, path⟩) hs (Or.inr rfl),
      plan_of_reads (r := ⟨.get, path⟩) hs (Or.inl rfl)]
    by_cases hn : ∃ u, Names segment u
    · obtain ⟨u, hu⟩ := hn
      rw [planRoute_of_names _ _ hu, planRoute_of_names _ _ hu]
      rfl
    · obtain ⟨reply, -, hr⟩ := planRoute_of_not_names hn
      rw [hr, hr]
      rfl
  · rw [plan_of_elsewhere (r := ⟨.head, path⟩) hp, plan_of_elsewhere (r := ⟨.get, path⟩) hp,
      Plan.withoutBody, withoutBody_unknownPath]

theorem serve_head {σ : Type} (service : String → σ → Except Crash Lookup × σ) (s : σ)
    (path : List Char) :
    serve service s ⟨.head, path⟩ =
      ⟨⟨(serve service s ⟨.get, path⟩).outcome.result.map fun x => ⟨x.status, x.headers, ""⟩,
          (serve service s ⟨.get, path⟩).outcome.log⟩,
        (serve service s ⟨.get, path⟩).state, (serve service s ⟨.get, path⟩).asked⟩ := by
  rw [serve_eq, serve_eq, plan_head, run_withoutBody, username?_withoutBody]
  rfl

/-! ## Targets that escape a whole name -/

theorem pathOf_eq_ok {cs : List Char} (h : ∀ c ∈ cs, Http.Uri.isPathChar c = true) :
    Http.Uri.pathOf cs = .ok cs := by
  induction cs with
  | nil => rfl
  | cons c r ih =>
    have hc := h c List.mem_cons_self
    have hhash : c ≠ '#' := by rintro rfl; exact absurd hc (by decide)
    have hquery : c ≠ '?' := by rintro rfl; exact absurd hc (by decide)
    rw [Http.Uri.pathOf, if_neg hhash, if_neg hquery, if_pos hc,
      ih fun d hd => h d (List.mem_cons_of_mem c hd)]
    rfl

theorem isPathChar_of_escapesAll {bytes : List UInt8} {cs : List Char} (h : EscapesAll bytes cs) :
    ∀ c ∈ cs, Http.Uri.isPathChar c = true := by
  intro c hc
  simp only [Http.Uri.isPathChar, Bool.or_eq_true, Bool.and_eq_true, decide_eq_true_eq]
  rcases toNat_of_mem_escapesAll h c hc with hn | hn | hn | hn
  · exact Or.inl (Or.inl (Or.inl (Or.inl (Or.inr ⟨show 36 ≤ c.toNat by omega, show c.toNat ≤ 59 by omega⟩))))
  · exact Or.inl (Or.inl (Or.inl (Or.inl (Or.inr ⟨show 36 ≤ c.toNat by omega, show c.toNat ≤ 59 by omega⟩))))
  · exact Or.inl (Or.inr ⟨hn.1, show c.toNat ≤ 126 by omega⟩)
  · exact Or.inl (Or.inl (Or.inr ⟨show 64 ≤ c.toNat by omega, show c.toNat ≤ 95 by omega⟩))

/-- The target of a view, the name in it escaped as a whole. -/
def target (segment : List Char) (view : View) : String :=
  String.ofList ('/' :: (segment ++ view.tail.toList))

theorem path_target {segment : List Char} {view : View}
    (hs : ∀ c ∈ segment, Http.Uri.isPathChar c = true)
    (hl : (target segment view).utf8ByteSize ≤ Http.Uri.maxLength) :
    Http.Uri.path (target segment view) = .ok ('/' :: (segment ++ view.tail.toList)) := by
  have hall : ∀ c ∈ '/' :: (segment ++ view.tail.toList), Http.Uri.isPathChar c = true := by
    intro c hc
    simp only [List.mem_cons, List.mem_append] at hc
    rcases hc with rfl | hc | hc
    · decide
    · exact hs c hc
    · have hall : view.tail.toList.all Http.Uri.isPathChar = true := by
        cases view <;> decide
      exact List.all_eq_true.mp hall c hc
  obtain ⟨d, r, hd⟩ : ∃ d r, segment ++ view.tail.toList = d :: r := by
    cases segment with
    | nil => cases view <;> exact ⟨_, _, rfl⟩
    | cons d r => exact ⟨d, r ++ view.tail.toList, rfl⟩
  have hp := pathOf_eq_ok hall
  rw [hd] at hp ⊢
  rw [Http.Uri.path, if_neg (Nat.not_lt.mpr hl), target, String.toList_ofList, hd]
  exact hp

/-- Such a target makes a request for its path. -/
theorem build_target {bytes : List UInt8} {segment : List Char} {view : View}
    {headers : List (String × String)} (hs : EscapesAll bytes segment)
    (hl : (target segment view).utf8ByteSize ≤ Http.Uri.maxLength)
    (hh : Http.checkHeaders headers = .ok ()) :
    Http.Request.build "GET" (target segment view) headers =
      .ok ⟨.get, '/' :: (segment ++ view.tail.toList)⟩ := by
  have hget : Http.Method.ofString? "GET" = some .get := by decide
  rw [Http.Request.build, hget, path_target (isPathChar_of_escapesAll hs) hl]
  show (Http.checkHeaders headers >>= fun _ => _) = _
  rw [hh]
  rfl

/-! ## The rule of dispatch -/

/-- What a request is answered for which the service is not asked. -/
structure AnsweredAtOnce (r : Http.Request) (response : Http.Response) : Prop where
  /-- The path shows no vehicle, whatever the method. -/
  elsewhere : (¬ ∃ segment view, ShowsVehicle r.path segment view) → response.status = 404
  /-- The path shows a vehicle, and the method does not read. -/
  notAllowed : (∃ segment view, ShowsVehicle r.path segment view) → ¬ r.method.Reads →
    response.status = 405 ∧ response.header? "allow" = some "GET,HEAD"
  /-- Path and method are in order, so what is wrong is the username. -/
  refused : (∃ segment view, ShowsVehicle r.path segment view) → r.method.Reads →
    response.status = 400

theorem answeredAtOnce_of_plan {r : Http.Request} (h : (plan r).username? = none) :
    ∃ reply, plan r = .answer reply ∧ AnsweredAtOnce r reply.response := by
  by_cases hp : ∃ segment view, ShowsVehicle r.path segment view
  · obtain ⟨segment, view, hs⟩ := hp
    by_cases hm : r.method.Reads
    · have hn : ¬ ∃ u, Names segment u := by
        rintro ⟨u, hu⟩
        rw [username?_plan_eq_some_iff.mpr ⟨hm, segment, view, hs, hu⟩] at h
        cases h
      obtain ⟨reply, h400, hr⟩ := planRoute_of_not_names hn
      refine ⟨complete r.method reply, (plan_of_reads hs hm).trans (hr _ _), ?_, ?_, ?_⟩
      · exact fun he => absurd ⟨segment, view, hs⟩ he
      · exact fun _ he => absurd hm he
      · exact fun _ _ => (status_complete _ _).trans h400
    · refine ⟨_, plan_of_not_reads hs hm, ?_, ?_, ?_⟩
      · exact fun he => absurd ⟨segment, view, hs⟩ he
      · exact fun _ _ => ⟨rfl, by decide⟩
      · exact fun _ he => absurd he hm
  · refine ⟨_, plan_of_elsewhere hp, ?_, ?_, ?_⟩
    · intro _
      unfold unknownPath
      split <;> rfl
    · exact fun he => absurd he hp
    · exact fun he => absurd he hp

/-- Whatever the service and whatever the request, the service is asked once at most. It is asked exactly
for the canonical username in a path that shows a vehicle, by a `GET` or a `HEAD`; any other request is
answered at once, and the service is left alone. A `HEAD` is served as the `GET` of the same path is: the
service is asked the same, and the response has the same status and the same headers, and no body. A name that
is escaped as a whole is asked for exactly in its canonical form, if it has one. -/
theorem dispatch_discipline {σ : Type} (service : String → σ → Except Crash Lookup × σ) (s : σ)
    (r : Http.Request) :
    (plan r).run service s = ((serve service s r).outcome, (serve service s r).state) ∧
    (serve service s r).asked.length ≤ 1 ∧
    (∀ u, u ∈ (serve service s r).asked ↔ AsksFor r u) ∧
    (∀ u ∈ (serve service s r).asked, Username.IsCanonical u) ∧
    ((serve service s r).asked = [] → (serve service s r).state = s ∧
      ∃ response, (serve service s r).outcome.result = .ok response ∧ AnsweredAtOnce r response) ∧
    (∀ path,
      (serve service s ⟨.head, path⟩).asked = (serve service s ⟨.get, path⟩).asked ∧
      (serve service s ⟨.head, path⟩).state = (serve service s ⟨.get, path⟩).state ∧
      (serve service s ⟨.head, path⟩).outcome.log = (serve service s ⟨.get, path⟩).outcome.log ∧
      (∀ crash, (serve service s ⟨.get, path⟩).outcome.result = .error crash →
        (serve service s ⟨.head, path⟩).outcome.result = .error crash) ∧
      (∀ response, (serve service s ⟨.get, path⟩).outcome.result = .ok response →
        ∃ bare, (serve service s ⟨.head, path⟩).outcome.result = .ok bare ∧
          bare.status = response.status ∧ bare.headers = response.headers ∧ bare.body = "")) ∧
    (∀ name segment view headers, EscapesAll (Utf8.encode name.toList) segment →
      (target segment view).utf8ByteSize ≤ Http.Uri.maxLength → Http.checkHeaders headers = .ok () →
      ∃ request, Http.Request.build "GET" (target segment view) headers = .ok request ∧
        (serve service s request).asked = (Username.canonical name).toOption.toList) := by
  have hasked : ∀ r u, u ∈ (serve service s r).asked ↔ AsksFor r u := by
    intro r u
    rw [serve_eq, Option.mem_toList, username?_plan_eq_some_iff]
  refine ⟨?_, ?_, hasked r, ?_, ?_, ?_, ?_⟩
  · rw [serve_eq]
  · rw [serve_eq]
    exact Option.length_toList_le
  · intro u hu
    obtain ⟨-, segment, view, -, hn⟩ := (hasked r u).mp hu
    exact isCanonical_of_names hn
  · intro h
    rw [serve_eq] at h ⊢
    obtain ⟨reply, hr, ha⟩ := answeredAtOnce_of_plan (Option.toList_eq_nil_iff.mp h)
    rw [hr]
    exact ⟨rfl, _, rfl, ha⟩
  · intro path
    rw [serve_head]
    refine ⟨rfl, rfl, rfl, ?_, ?_⟩
    · intro crash h
      rw [h]
      rfl
    · intro response h
      rw [h]
      exact ⟨_, rfl, rfl, rfl, rfl⟩
  · intro name segment view headers hs hl hh
    refine ⟨_, build_target hs hl hh, ?_⟩
    have hshows : ShowsVehicle ('/' :: (segment ++ view.tail.toList)) segment view :=
      ⟨rfl, slash_not_mem_escapesAll hs⟩
    rw [serve_eq]
    cases hc : Username.canonical name with
    | ok u =>
      have hn := (names_of_escapesAll hs).mpr hc
      rw [username?_plan_eq_some_iff.mpr ⟨Or.inl rfl, segment, view, hshows, hn⟩]
      rfl
    | error fault =>
      rw [plan_of_reads hshows (Or.inl rfl),
        planRoute_of_fault _ (username?_of_escapesAll hs view) hc]
      rfl

end Garage.Web

import Garage.Proofs.Web.Views

/-!
# What a failure carries stays with the server

Two services that fail in the same way, each with its own reason or error, are told apart by no client.
A missing vehicle is the one exception, and only on its page, which shows the name that the failure
carries. What a failure carries goes to the log, in one note if the fault lies with the server.
-/

namespace Garage

/-- The text that a failure carries. -/
def Failure.payload : Failure → String
  | badRequest reason => reason
  | userNotFound username => username
  | database error => error.message
  | internal text => text

/-- The notes of errors. -/
def errors (log : Log) : Log := log.filter fun n => n.level = .error

namespace Web

/-! ## Answers of services -/

/-- The two answers are the same, but for what a failure carries that is no missing vehicle. -/
inductive Alike : Except Crash Lookup → Except Crash Lookup → Prop
  | same (answer : Except Crash Lookup) : Alike answer answer
  | badRequest (reason reason' : String) :
    Alike (.ok (.error (.badRequest reason))) (.ok (.error (.badRequest reason')))
  | database (error error' : Store.Error) :
    Alike (.ok (.error (.database error))) (.ok (.error (.database error')))
  | internal (text text' : String) :
    Alike (.ok (.error (.internal text))) (.ok (.error (.internal text')))

/-- The two answers are the same, but for what a failure carries. -/
inductive AlikeButName : Except Crash Lookup → Except Crash Lookup → Prop
  | alike {answer answer' : Except Crash Lookup} (h : Alike answer answer') :
    AlikeButName answer answer'
  | userNotFound (name name' : String) :
    AlikeButName (.ok (.error (.userNotFound name))) (.ok (.error (.userNotFound name')))

/-- A page with a name in it, which stands there escaped, as the answer to a request of this method. -/
def around (method : Http.Method) (status : Nat) (headers : List (String × String))
    (before after name : String) : Http.Response :=
  let body := before ++ String.ofList (Html.escape name.toList) ++ after
  ⟨status, headers ++ [("content-length", toString body.utf8ByteSize)],
    if method = .head then "" else body⟩

/-! ## What is planned, and what is noted -/

/-- A request is answered without an error, or a vehicle is looked up and shown. -/
theorem plan_cases (r : Http.Request) :
    (∃ reply, plan r = .answer reply ∧ reply.response.status ≠ 500 ∧ errors reply.log = []) ∨
      ∃ segment view u, AsksFor r u ∧ ShowsVehicle r.path segment view ∧
        plan r = .lookup u fun result => complete r.method (view.reply u result) := by
  by_cases hp : ∃ segment view, ShowsVehicle r.path segment view
  · obtain ⟨segment, view, hs⟩ := hp
    by_cases hm : r.method.Reads
    · cases hd : (Route.mk segment view).username? with
      | none =>
        refine Or.inl ⟨_, (plan_of_reads hs hm).trans (planRoute_of_undecodable _ hd), ?_, rfl⟩
        rw [status_complete]
        decide
      | some name =>
        cases hc : Username.canonical name with
        | error fault =>
          refine Or.inl ⟨_, (plan_of_reads hs hm).trans (planRoute_of_fault _ hd hc), ?_, rfl⟩
          rw [status_complete]
          show 400 ≠ 500
          decide
        | ok u =>
          have hu : Names segment u := (names_iff view).mpr ⟨name, hd, hc⟩
          exact Or.inr ⟨segment, view, u, ⟨hm, segment, view, hs, hu⟩, hs,
            (plan_of_reads hs hm).trans (planRoute_of_names _ _ hu)⟩
    · exact Or.inl ⟨_, plan_of_not_reads hs hm, by decide, rfl⟩
  · refine Or.inl ⟨_, plan_of_elsewhere hp, ?_, rfl⟩
    show (unknownPath r.path).status ≠ 500
    unfold unknownPath
    split <;> decide

theorem errors_run_lookup {σ : Type} (service : String → σ → Except Crash Lookup × σ) (u : String)
    (finish : Lookup → Reply) (s : σ) :
    errors ((Plan.lookup u finish).run service s).1.log =
      match (service u s).1 with
      | .ok result => errors (finish result).log
      | .error _ => [] := by
  rw [Plan.run]
  rcases service u s with ⟨_ | result, s'⟩ <;> rfl

/-- A failure is noted as an error exactly if the fault lies with the server. -/
theorem errors_failed (view : View) (f : Failure) :
    errors (view.failed f).log = if f.status = 500 then [f.note] else [] := by
  cases view <;> cases f <;> rfl

/-- The note of an error ends in what the failure carries. -/
theorem text_note {f : Failure} (h : f.status = 500) : ∃ before, f.note.text = before ++ f.payload := by
  cases f with
  | badRequest reason => cases h
  | userNotFound username => cases h
  | database error => exact ⟨"Database error: ", rfl⟩
  | internal text => exact ⟨"Internal server error: ", rfl⟩

/-! ## Two services -/

/-- The answer of a route to what a service has answered. -/
def answered (method : Http.Method) (view : View) (u : String) (answer : Except Crash Lookup) :
    Except Crash Http.Response :=
  answer.map fun result => (complete method (view.reply u result)).response

theorem response_complete (method : Http.Method) {reply reply' : Reply}
    (h : reply.response = reply'.response) :
    (complete method reply).response = (complete method reply').response := by
  rw [complete, complete, h]

theorem answered_eq_of_response {view : View} {u : String} {result result' : Lookup}
    (h : (view.reply u result).response = (view.reply u result').response) (method : Http.Method) :
    answered method view u (.ok result) = answered method view u (.ok result') :=
  congrArg Except.ok (response_complete method h)

/-- No view tells such answers apart. -/
theorem Alike.answered_eq {answer answer' : Except Crash Lookup} (h : Alike answer answer')
    (method : Http.Method) (view : View) (u : String) :
    answered method view u answer = answered method view u answer' := by
  cases h with
  | same => rfl
  | badRequest reason reason' => exact answered_eq_of_response (by cases view <;> rfl) method
  | database error error' => exact answered_eq_of_response (by cases view <;> rfl) method
  | internal text text' => exact answered_eq_of_response (by cases view <;> rfl) method

/-- The name of a missing vehicle is shown by the page only. -/
theorem AlikeButName.answered_eq {answer answer' : Except Crash Lookup}
    (h : AlikeButName answer answer') (method : Http.Method) {view : View} (hv : view ≠ .page)
    (u : String) : answered method view u answer = answered method view u answer' := by
  cases h with
  | alike h => exact h.answered_eq method view u
  | userNotFound name name' =>
    cases view with
    | page => exact absurd rfl hv
    | text => exact answered_eq_of_response rfl method
    | json => exact answered_eq_of_response rfl method

/-- The page for a missing vehicle is the same but for the name in it. -/
theorem exists_notFoundPage :
    ∃ before after, ∀ name,
      Html.notFoundPage name = before ++ String.ofList (Html.escape name.toList) ++ after := by
  refine ⟨String.ofList (Html.beforeTitle ++ "No vehicle found".toList ++ Html.afterTitle ++
    "No vehicle registered for ".toList), String.ofList Html.afterBody, fun name => ?_⟩
  rw [Html.notFoundPage, Html.page_eq, ← String.ofList_append, ← String.ofList_append]
  simp only [List.append_assoc]

theorem answered_userNotFound (method : Http.Method) (u : String) :
    ∃ status headers before after, ∀ name,
      answered method .page u (.ok (.error (.userNotFound name))) =
        .ok (around method status headers before after name) := by
  obtain ⟨before, after, hpage⟩ := exists_notFoundPage
  refine ⟨404, [("content-type", htmlText)], before, after, fun name => ?_⟩
  show Except.ok (complete method ⟨.typed 404 htmlText (Html.notFoundPage name), []⟩).response = _
  rw [hpage, complete, around]
  cases method <;> rfl

section Requests

variable {σ τ : Type} {service : String → σ → Except Crash Lookup × σ} {s : σ}
  {service' : String → τ → Except Crash Lookup × τ} {t : τ}

/-- Services that answer alike are told apart by no request. -/
theorem result_run_of_alike (h : ∀ u, Alike (service u s).1 (service' u t).1) (r : Http.Request) :
    ((plan r).run service s).1.result = ((plan r).run service' t).1.result := by
  rcases plan_cases r with ⟨reply, hr, -⟩ | ⟨segment, view, u, -, -, hr⟩
  · rw [hr]
    rfl
  · rw [hr, result_run_lookup, result_run_lookup]
    exact (h u).answered_eq r.method view u

/-- Services that answer alike but for a name are told apart by the page for a missing vehicle only, and by
nothing in it but the name. -/
theorem result_run_of_alikeButName (h : ∀ u, AlikeButName (service u s).1 (service' u t).1)
    (r : Http.Request) :
    ((plan r).run service s).1.result = ((plan r).run service' t).1.result ∨
      ∃ segment u name name', AsksFor r u ∧ ShowsVehicle r.path segment .page ∧
        (service u s).1 = .ok (.error (.userNotFound name)) ∧
        (service' u t).1 = .ok (.error (.userNotFound name')) ∧
        ∃ status headers before after,
          ((plan r).run service s).1.result =
            .ok (around r.method status headers before after name) ∧
          ((plan r).run service' t).1.result =
            .ok (around r.method status headers before after name') := by
  rcases plan_cases r with ⟨reply, hr, -⟩ | ⟨segment, view, u, hu, hs, hr⟩
  · rw [hr]
    exact Or.inl rfl
  rw [hr, result_run_lookup, result_run_lookup]
  by_cases hv : view = .page
  · subst hv
    have hsame := h u
    generalize ha : (service u s).1 = answer at hsame ⊢
    generalize ha' : (service' u t).1 = answer' at hsame ⊢
    cases hsame with
    | alike hsame => exact Or.inl (hsame.answered_eq r.method .page u)
    | userNotFound name name' =>
      obtain ⟨status, headers, before, after, hpage⟩ := answered_userNotFound r.method u
      exact Or.inr ⟨segment, u, name, name', hu, hs, ha, ha', status, headers, before, after,
        hpage name, hpage name'⟩
  · exact Or.inl ((h u).answered_eq r.method hv u)

theorem result_run_of_view {segment : List Char} {view : View} {r : Http.Request}
    (h : ∀ u, AlikeButName (service u s).1 (service' u t).1)
    (hs : ShowsVehicle r.path segment view) (hv : view ≠ .page) :
    ((plan r).run service s).1.result = ((plan r).run service' t).1.result := by
  rcases result_run_of_alikeButName h r with he | ⟨_, _, _, _, -, hs', -⟩
  · exact he
  · have hroute := (ofPath?_of_shows hs).symm.trans (ofPath?_of_shows hs')
    cases hroute
    exact absurd rfl hv

/-- A failure of the service is told by its status, and noted as an error exactly if the fault lies with the
server. -/
theorem run_of_failure {u : String} {f : Failure} {r : Http.Request} (hu : AsksFor r u)
    (ha : (service u s).1 = .ok (.error f)) :
    errors ((plan r).run service s).1.log = (if f.status = 500 then [f.note] else []) ∧
      ∃ response, ((plan r).run service s).1.result = .ok response ∧ response.status = f.status := by
  obtain ⟨segment, view, -, hr⟩ := plan_of_asksFor hu
  rw [hr, result_run_lookup, errors_run_lookup, ha]
  exact ⟨errors_failed view f, _, rfl, (status_complete _ _).trans (view.status_failed f)⟩

/-- One error is noted if the service has failed by its own fault, and none otherwise. -/
theorem errors_run (service : String → σ → Except Crash Lookup × σ) (s : σ) (r : Http.Request) :
    (errors ((plan r).run service s).1.log = [] ∧
      ∀ response, ((plan r).run service s).1.result = .ok response → response.status ≠ 500) ∨
    ∃ u f, AsksFor r u ∧ (service u s).1 = .ok (.error f) ∧ f.status = 500 ∧
      errors ((plan r).run service s).1.log = [f.note] ∧
      ∃ response, ((plan r).run service s).1.result = .ok response ∧ response.status = 500 := by
  rcases plan_cases r with ⟨reply, hr, hstatus, herrors⟩ | ⟨segment, view, u, hu, -, hr⟩
  · rw [hr]
    refine Or.inl ⟨herrors, ?_⟩
    rintro _ ⟨⟩
    exact hstatus
  rcases ha : (service u s).1 with crash | f | d
  · rw [hr, result_run_lookup, errors_run_lookup, ha]
    exact Or.inl ⟨rfl, nofun⟩
  · obtain ⟨hlog, response, he, hs⟩ := run_of_failure hu ha
    by_cases hf : f.status = 500
    · rw [if_pos hf] at hlog
      exact Or.inr ⟨u, f, hu, ha, hf, hlog, response, he, hs.trans hf⟩
    · rw [if_neg hf] at hlog
      refine Or.inl ⟨hlog, fun response' he' => ?_⟩
      rw [he] at he'
      cases he'
      rwa [hs]
  · rw [hr, result_run_lookup, errors_run_lookup, ha]
    refine Or.inl ⟨rfl, ?_⟩
    rintro _ ⟨⟩
    rw [status_complete]
    show (view.found u d).status ≠ 500
    rw [view.status_found]
    decide

/-- A failure whose fault lies with the server is answered as such, and its note is the one error. -/
theorem fault_is_told {u : String} {f : Failure} {r : Http.Request} (hu : AsksFor r u)
    (ha : (service u s).1 = .ok (.error f)) (hf : f.status = 500) :
    ∃ response note, ((plan r).run service s).1.result = .ok response ∧ response.status = 500 ∧
      errors ((plan r).run service s).1.log = [note] ∧ ∃ before, note.text = before ++ f.payload := by
  obtain ⟨hlog, response, he, hs⟩ := run_of_failure hu ha
  rw [if_pos hf] at hlog
  exact ⟨response, f.note, he, hs.trans hf, hlog, text_note hf⟩

/-- The notes of errors tell of the service's own faults, one at most, and the status tells the same. -/
theorem errors_tell_faults (service : String → σ → Except Crash Lookup × σ) (s : σ) (r : Http.Request) :
    (errors ((plan r).run service s).1.log).length ≤ 1 ∧
    (∀ response, ((plan r).run service s).1.result = .ok response →
      (response.status = 500 ↔ (errors ((plan r).run service s).1.log).length = 1)) ∧
    (∀ note ∈ errors ((plan r).run service s).1.log, ∃ u f, AsksFor r u ∧
      (service u s).1 = .ok (.error f) ∧ ∃ before, note.text = before ++ f.payload) := by
  rcases errors_run service s r with ⟨hlog, hstatus⟩ | ⟨u, f, hr, hf, h500, hlog, response, he, hs⟩
  · rw [hlog]
    exact ⟨Nat.zero_le _, fun response he => iff_of_false (hstatus response he) nofun, nofun⟩
  · rw [hlog, he]
    refine ⟨Nat.le_refl _, ?_, ?_⟩
    · rintro _ ⟨⟩
      exact iff_of_true hs rfl
    · intro note hm
      rw [List.mem_singleton.mp hm]
      exact ⟨u, f, hr, hf, text_note h500⟩

end Requests

/-- For every request: services that answer alike but for what failures carry give the same response, and if
names of missing vehicles differ too, then only the page for a missing vehicle differs, in the name and in
the length of the body. A response tells a fault of the server exactly if one error is noted; there is
never more than one, and it ends in what the failure carries. An error of the database, and any other fault
within, is always told and noted so. -/
theorem failures_keep_their_payload {σ τ : Type} (service : String → σ → Except Crash Lookup × σ)
    (s : σ) (service' : String → τ → Except Crash Lookup × τ) (t : τ) (r : Http.Request) :
    ((∀ u, Alike (service u s).1 (service' u t).1) →
      ((plan r).run service s).1.result = ((plan r).run service' t).1.result) ∧
    ((∀ u, AlikeButName (service u s).1 (service' u t).1) →
      (∀ segment view, ShowsVehicle r.path segment view → view ≠ .page →
        ((plan r).run service s).1.result = ((plan r).run service' t).1.result) ∧
      (((plan r).run service s).1.result = ((plan r).run service' t).1.result ∨
        ∃ segment u name name', AsksFor r u ∧ ShowsVehicle r.path segment .page ∧
          (service u s).1 = .ok (.error (.userNotFound name)) ∧
          (service' u t).1 = .ok (.error (.userNotFound name')) ∧
          ∃ status headers before after,
            ((plan r).run service s).1.result =
              .ok (around r.method status headers before after name) ∧
            ((plan r).run service' t).1.result =
              .ok (around r.method status headers before after name'))) ∧
    (errors ((plan r).run service s).1.log).length ≤ 1 ∧
    (∀ response, ((plan r).run service s).1.result = .ok response →
      (response.status = 500 ↔ (errors ((plan r).run service s).1.log).length = 1)) ∧
    (∀ note ∈ errors ((plan r).run service s).1.log, ∃ u f, AsksFor r u ∧
      (service u s).1 = .ok (.error f) ∧ ∃ before, note.text = before ++ f.payload) ∧
    (∀ u f, AsksFor r u → (service u s).1 = .ok (.error f) →
      ((∃ error, f = .database error) ∨ ∃ text, f = .internal text) →
      ∃ response note, ((plan r).run service s).1.result = .ok response ∧ response.status = 500 ∧
        errors ((plan r).run service s).1.log = [note] ∧
        ∃ before, note.text = before ++ f.payload) := by
  obtain ⟨hone, hstatus, hnotes⟩ := errors_tell_faults service s r
  refine ⟨fun h => result_run_of_alike h r, fun h =>
    ⟨fun segment view hs hv => result_run_of_view h hs hv, result_run_of_alikeButName h r⟩,
    hone, hstatus, hnotes, ?_⟩
  rintro u f hu ha (⟨error, rfl⟩ | ⟨text, rfl⟩)
  · exact fault_is_told hu ha rfl
  · exact fault_is_told hu ha rfl

/-- Which error has stopped the database is not told. -/
theorem failures_keep_their_payload_of_database :
    ((plan ⟨.get, "/sboot/vehicle".toList⟩).run (σ := Unit)
        (fun _ s => (.ok (.error (.database (.custom "disk full"))), s)) ()).1.result =
      ((plan ⟨.get, "/sboot/vehicle".toList⟩).run (σ := Unit)
        (fun _ s => (.ok (.error (.database .recordNotInserted)), s)) ()).1.result :=
  (failures_keep_their_payload _ () _ () _).1 fun _ => .database _ _

end Web

end Garage

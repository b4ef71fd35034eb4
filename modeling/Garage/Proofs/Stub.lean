import Garage.Proofs.Web.Views
import Garage.Stub

/-!
# A stub that expects one user

The stub expects to be asked for one user a given number of times. What it has been asked for is all that
it remembers, so each request is answered by the number of those before it that asked for this user.
Requests that ask for nobody leave no trace, and calls that are given up do not end the run.
-/

namespace Garage

open Garage.Web (AnsweredAtOnce AsksFor Lookup Outcome ShowsVehicle plan)

instance (r : Http.Request) (u : String) : Decidable (AsksFor r u) :=
  decidable_of_iff ((plan r).username? = some u) Web.username?_plan_eq_some_iff

namespace Stub

/-! ## The stub and its calls -/

/-- Expects to be asked for a user a number of times, and has been asked `calls` times. -/
def counting (u : String) (times : Nat) (d : Details) (calls : Nat) : Stub :=
  [⟨some u, some times, .details d, calls⟩]

/-- Expects to be asked for a user a number of times, and to answer with these details. -/
def expecting (u : String) (times : Nat) (d : Details) : Stub := counting u times d 0

variable {u : String} {n : Nat} {d : Details} {k : Nat}

/-- The call is taken and counted, also if it is one too many. -/
theorem call_counting :
    call u (counting u n d k) =
      (if k < n then .ok (.ok d)
        else .error (Expectation.excess ⟨some u, some n, .details d, k + 1⟩ n),
        counting u n d (k + 1)) := by
  have hfor : (Expectation.mk (some u) (some n) (.details d) k).isFor u = true := beq_self_eq_true u
  rw [call, counting, offer, hfor, List.length_singleton]
  show ((Expectation.mk (some u) (some n) (.details d) (k + 1)).respond u, _) = _
  rw [Expectation.respond]
  dsimp only
  by_cases hk : k < n
  · rw [if_neg (by omega), if_pos hk]
    rfl
  · rw [if_pos (by omega), if_neg hk]
    rfl

/-- Nothing takes the call for another user, and nothing counts it. -/
theorem call_counting_of_ne {v : String} (h : v ≠ u) :
    call v (counting u n d k) = (.error (unexpected v), counting u n d k) := by
  have hfor : (Expectation.mk (some u) (some n) (.details d) k).isFor v = false :=
    beq_false_of_ne (Ne.symm h)
  rw [call, counting, offer, hfor]
  rfl

theorem isSatisfied_counting : isSatisfied (counting u n d k) = true ↔ k = n := by
  show ((n == k) && true) = true ↔ k = n
  rw [Bool.and_true, beq_iff_eq, eq_comm]

/-! ## One request -/

/-- How a request is treated when `calls` requests before it have asked for the user. -/
structure Treated (u : String) (times : Nat) (d : Details) (calls : Nat) (r : Http.Request)
    (result : Except Crash Http.Response) : Prop where
  /-- The user's vehicle is shown as often as was expected. -/
  served : AsksFor r u → calls < times → ∃ response, result = .ok response ∧
    response.status = 200 ∧ (r.method = .get → ∀ segment view,
      ShowsVehicle r.path segment view → view.Shows response.body d)
  /-- Then work is given up, and the call is counted all the same. -/
  excess : AsksFor r u → times ≤ calls →
    result = .error (Expectation.excess ⟨some u, some times, .details d, calls + 1⟩ times)
  /-- What asks for another user is given up at any time. -/
  unexpected : ∀ v, AsksFor r v → v ≠ u → result = .error (Stub.unexpected v)
  atOnce : (∀ v, ¬ AsksFor r v) → ∃ response, result = .ok response ∧ AnsweredAtOnce r response

theorem treated_self {r : Http.Request} (h : AsksFor r u) :
    Treated u n d k r ((plan r).run call (counting u n d k)).1.result ∧
      ((plan r).run call (counting u n d k)).2 = counting u n d (k + 1) := by
  obtain ⟨segment, view, hs, hr⟩ := Web.plan_of_asksFor h
  rw [hr, Web.result_run_lookup, Web.state_run_lookup, call_counting]
  refine ⟨⟨?_, ?_, ?_, ?_⟩, rfl⟩
  · intro _ hk
    rw [if_pos hk]
    refine ⟨_, rfl, ?_, ?_⟩
    · rw [Web.status_complete]
      exact view.status_found u d
    · -- The path has one view only, and a `GET` keeps the body that this view shows.
      intro hget segment' view' hs'
      have hroute := (Web.ofPath?_of_shows hs).symm.trans (Web.ofPath?_of_shows hs')
      cases hroute
      rw [hget]
      exact view.shows_found u d
  · intro _ hk
    rw [if_neg (Nat.not_lt.mpr hk)]
    rfl
  · exact fun v hv hne => absurd (Web.asksFor_unique hv h) hne
  · exact fun hnone => absurd h (hnone u)

theorem treated_of_ne {r : Http.Request} {v : String} (h : AsksFor r v) (hv : v ≠ u) :
    Treated u n d k r ((plan r).run call (counting u n d k)).1.result ∧
      ((plan r).run call (counting u n d k)).2 = counting u n d k := by
  obtain ⟨segment, view, -, hr⟩ := Web.plan_of_asksFor h
  have hu : ¬ AsksFor r u := fun hu => hv (Web.asksFor_unique h hu)
  rw [hr, Web.result_run_lookup, Web.state_run_lookup, call_counting_of_ne hv]
  refine ⟨⟨?_, ?_, ?_, ?_⟩, rfl⟩
  · exact fun he => absurd he hu
  · exact fun he => absurd he hu
  · intro w hw _
    rw [Web.asksFor_unique hw h]
    rfl
  · exact fun hnone => absurd h (hnone v)

theorem treated_of_none {r : Http.Request} (h : ∀ v, ¬ AsksFor r v) :
    Treated u n d k r ((plan r).run call (counting u n d k)).1.result ∧
      ((plan r).run call (counting u n d k)).2 = counting u n d k := by
  have hnone : (plan r).username? = none :=
    Option.eq_none_iff_forall_ne_some.mpr fun v hv => h v (Web.username?_plan_eq_some_iff.mp hv)
  obtain ⟨reply, hr, hatOnce⟩ := Web.answeredAtOnce_of_plan hnone
  rw [hr]
  refine ⟨⟨?_, ?_, ?_, ?_⟩, rfl⟩
  · exact fun he => absurd he (h u)
  · exact fun he => absurd he (h u)
  · exact fun v he => absurd he (h v)
  · exact fun _ => ⟨_, rfl, hatOnce⟩

/-- How a request is treated, and what the stub remembers of it. -/
theorem treated (u : String) (n : Nat) (d : Details) (k : Nat) (r : Http.Request) :
    Treated u n d k r ((plan r).run call (counting u n d k)).1.result ∧
      ((plan r).run call (counting u n d k)).2 =
        counting u n d (k + if AsksFor r u then 1 else 0) := by
  by_cases hu : AsksFor r u
  · rw [if_pos hu]
    exact treated_self hu
  rw [if_neg hu]
  by_cases h : ∃ v, AsksFor r v
  · obtain ⟨v, hv⟩ := h
    exact treated_of_ne hv fun he => hu (he ▸ hv)
  · exact treated_of_none fun v hv => h ⟨v, hv⟩

/-! ## Runs of requests -/

/-- Carries requests out, one after the other. -/
def serve (stub : Stub) : List Http.Request → List Outcome × Stub
  | [] => ([], stub)
  | r :: rest =>
    (((plan r).run call stub).1 :: (serve ((plan r).run call stub).2 rest).1,
      (serve ((plan r).run call stub).2 rest).2)

theorem length_serve (stub : Stub) (requests : List Http.Request) :
    (serve stub requests).1.length = requests.length := by
  induction requests generalizing stub with
  | nil => rfl
  | cons r rest ih => rw [serve, List.length_cons, List.length_cons, ih]

theorem serve_append (stub : Stub) (before after : List Http.Request) :
    serve stub (before ++ after) =
      ((serve stub before).1 ++ (serve (serve stub before).2 after).1,
        (serve (serve stub before).2 after).2) := by
  induction before generalizing stub with
  | nil => rfl
  | cons r rest ih =>
    rw [List.cons_append, serve, ih, serve]
    rfl

/-- The stub counts the requests that ask for its user, and keeps nothing else of them. -/
theorem stub_serve (u : String) (n : Nat) (d : Details) (k : Nat) (requests : List Http.Request) :
    (serve (counting u n d k) requests).2 =
      counting u n d (k + requests.countP fun r => AsksFor r u) := by
  induction requests generalizing k with
  | nil => rfl
  | cons r rest ih =>
    rw [serve, (treated u n d k r).2, ih, List.countP_cons, Nat.add_assoc]
    simp only [decide_eq_true_eq, Nat.add_comm]

/-- What is answered to a request in the middle of a run. -/
theorem serve_middle (u : String) (n : Nat) (d : Details) (before : List Http.Request)
    (r : Http.Request) (after : List Http.Request) :
    ∃ outcome, Treated u n d (before.countP fun r => AsksFor r u) r outcome.result ∧
      (serve (expecting u n d) (before ++ r :: after)).1 =
        (serve (expecting u n d) before).1 ++ outcome ::
          (serve (counting u n d ((before ++ [r]).countP fun r => AsksFor r u)) after).1 := by
  have hstub := stub_serve u n d 0 before
  rw [Nat.zero_add] at hstub
  obtain ⟨htreated, hnext⟩ := treated u n d (before.countP fun r => AsksFor r u) r
  refine ⟨_, htreated, ?_⟩
  rw [serve_append, expecting, hstub, serve, hnext, List.countP_append, List.countP_singleton]
  simp only [decide_eq_true_eq]

/-- Whatever is requested, and in whatever order: each request is treated by the number of requests for the
user before it, a request that asks for nobody can be left out without changing any other answer, and in
the end the stub is satisfied exactly if the user has been asked for as often as was expected. -/
theorem served_as_expected (u : String) (n : Nat) (d : Details) :
    (∀ before r after, ∃ outcome,
      (serve (expecting u n d) (before ++ r :: after)).1[before.length]? = some outcome ∧
        Treated u n d (before.countP fun r => AsksFor r u) r outcome.result) ∧
    (∀ before r after, (∀ v, ¬ AsksFor r v) →
      (serve (expecting u n d) (before ++ r :: after)).1.eraseIdx before.length =
        (serve (expecting u n d) (before ++ after)).1) ∧
    (∀ requests, (serve (expecting u n d) requests).2.isSatisfied = true ↔
      (requests.countP fun r => AsksFor r u) = n) := by
  refine ⟨?_, ?_, ?_⟩
  · intro before r after
    obtain ⟨outcome, htreated, hserve⟩ := serve_middle u n d before r after
    refine ⟨outcome, ?_, htreated⟩
    rw [hserve, ← length_serve (expecting u n d) before, List.getElem?_append_right (Nat.le_refl _),
      Nat.sub_self, List.getElem?_cons_zero]
  · intro before r after hnone
    obtain ⟨outcome, -, hserve⟩ := serve_middle u n d before r after
    have hstub := stub_serve u n d 0 before
    rw [Nat.zero_add] at hstub
    rw [hserve, ← length_serve (expecting u n d) before,
      List.eraseIdx_append_of_length_le (Nat.le_refl _), Nat.sub_self, List.eraseIdx_cons_zero,
      serve_append, expecting, hstub, List.countP_append, List.countP_singleton,
      if_neg (by simpa using hnone u), Nat.add_zero]
  · intro requests
    rw [expecting, stub_serve, isSatisfied_counting, Nat.zero_add]

end Stub

end Garage

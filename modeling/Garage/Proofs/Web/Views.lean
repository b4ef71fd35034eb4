import Garage.Proofs.Details.RoundTrip
import Garage.Proofs.Html.BodyText
import Garage.Proofs.Web.Dispatch

/-!
# The three views show the same

Page, text and JSON are three ways to write down one answer of the service. What each of them shows is
defined by how it is read: the text of the page's body, the text itself, the details read from the JSON.
Only a missing vehicle has a page of its own; every other failure is answered alike in the three views.
-/

namespace Garage.Web

/-- The body shows these details to a reader of this view. -/
def View.Shows (view : View) (body : String) (d : Details) : Prop :=
  match view with
  | page => Html.bodyText body = d.display
  | text => body = d.display
  | json => Details.ofJson body = .ok d

theorem View.shows_found (view : View) (username : String) (d : Details) :
    view.Shows (view.found username d).body d := by
  cases view with
  | page => exact Html.bodyText_vehiclePage username d
  | text => exact rfl
  | json => exact Details.ofJson_toJson d

theorem View.status_found (view : View) (username : String) (d : Details) :
    (view.found username d).status = 200 := by
  cases view <;> rfl

/-- A failure has one status in all views. -/
theorem View.status_failed (view : View) (f : Failure) :
    (view.failed f).response.status = f.status := by
  cases view <;> cases f <;> rfl

theorem status_failure_ne (f : Failure) : f.status ≠ 200 := by
  cases f <;> simp [Failure.status]

/-- Every failure but a missing vehicle is told in the same way in all views. -/
theorem View.failed_eq_reply {f : Failure} (h : ∀ name, f ≠ .userNotFound name) (view : View) :
    view.failed f = f.reply := by
  cases f with
  | userNotFound name => exact absurd rfl (h name)
  | badRequest reason => cases view <;> rfl
  | database error => cases view <;> rfl
  | internal text => cases view <;> rfl

/-- A request for a user of whom the service cannot tell is answered with the failure's status. -/
theorem status_reply_of_error {r : Http.Request} {u : String} (h : AsksFor r u)
    {service : String → Lookup} {f : Failure} (hf : service u = .error f) :
    ((plan r).reply service).response.status = f.status := by
  obtain ⟨segment, view, -, hr⟩ := plan_of_asksFor h
  rw [hr]
  show (complete r.method (view.reply u (service u))).response.status = f.status
  rw [status_complete, hf]
  exact view.status_failed f

/-- The answer to a `GET` of a view. -/
def viewed (service : String → Lookup) (segment : List Char) (view : View) : Http.Response :=
  ((plan ⟨.get, '/' :: (segment ++ view.tail.toList)⟩).reply service).response

theorem viewed_of_names (service : String → Lookup) {segment : List Char} {u : String}
    (hs : '/' ∉ segment) (hu : Names segment u) (view : View) :
    viewed service segment view = (view.reply u (service u)).response.measured := by
  rw [viewed, plan_of_reads ⟨rfl, hs⟩ (Or.inl rfl), planRoute_of_names _ _ hu]
  rfl

/-- Who is not named cannot be looked up, and all views say so alike. -/
theorem viewed_of_not_names (service : String → Lookup) {segment : List Char}
    (hs : '/' ∉ segment) (hn : ¬ ∃ u, Names segment u) :
    ∃ response : Http.Response, response.status = 400 ∧
      ∀ view, viewed service segment view = response := by
  obtain ⟨reply, h400, hr⟩ := planRoute_of_not_names hn
  refine ⟨(complete .get reply).response, (status_complete _ _).trans h400, fun view => ?_⟩
  rw [viewed, plan_of_reads ⟨rfl, hs⟩ (Or.inl rfl), hr]
  rfl

theorem viewed_of_ok {service : String → Lookup} {segment : List Char} {u : String} {d : Details}
    (hs : '/' ∉ segment) (hu : Names segment u) (hd : service u = .ok d) (view : View) :
    (viewed service segment view).status = 200 ∧
      view.Shows (viewed service segment view).body d := by
  rw [viewed_of_names service hs hu, hd]
  exact ⟨view.status_found u d, view.shows_found u d⟩

theorem viewed_of_error {service : String → Lookup} {segment : List Char} {u : String} {f : Failure}
    (hs : '/' ∉ segment) (hu : Names segment u) (hf : service u = .error f) (view : View) :
    viewed service segment view = (view.failed f).response.measured := by
  rw [viewed_of_names service hs hu, hf]
  rfl

theorem status_viewed_of_error {service : String → Lookup} {segment : List Char} {u : String}
    {f : Failure} (hs : '/' ∉ segment) (hu : Names segment u) (hf : service u = .error f)
    (view : View) : (viewed service segment view).status = f.status := by
  rw [viewed_of_error hs hu hf]
  exact view.status_failed f

/-- The status does not depend on the view. -/
theorem status_viewed (service : String → Lookup) {segment : List Char} (hs : '/' ∉ segment)
    (view view' : View) :
    (viewed service segment view).status = (viewed service segment view').status := by
  by_cases hn : ∃ u, Names segment u
  · obtain ⟨u, hu⟩ := hn
    cases hr : service u with
    | ok d => rw [(viewed_of_ok hs hu hr view).1, (viewed_of_ok hs hu hr view').1]
    | error f => rw [status_viewed_of_error hs hu hr view, status_viewed_of_error hs hu hr view']
  · obtain ⟨response, -, hr⟩ := viewed_of_not_names service hs hn
    rw [hr, hr]

/-- A vehicle is shown only if the service has one for the user that the segment names. -/
theorem exists_ok_of_viewed {service : String → Lookup} {segment : List Char} {view : View}
    (hs : '/' ∉ segment) (h : (viewed service segment view).status = 200) :
    ∃ u d, Names segment u ∧ service u = .ok d := by
  by_cases hn : ∃ u, Names segment u
  · obtain ⟨u, hu⟩ := hn
    cases hr : service u with
    | ok d => exact ⟨u, d, hu, hr⟩
    | error f =>
      rw [status_viewed_of_error hs hu hr] at h
      exact absurd h (status_failure_ne f)
  · obtain ⟨response, h400, hr⟩ := viewed_of_not_names service hs hn
    rw [hr, h400] at h
    cases h

/-- For every service and every segment, the three views have one status. Where a vehicle is found, a reader
of each gets what the service answered. A name that is refused and a failure of the service are answered
in the same words; a missing vehicle has a page of its own, which ends in the name that the failure
carries. -/
theorem views_agree (service : String → Lookup) {segment : List Char} (hs : '/' ∉ segment) :
    ((viewed service segment .page).status = (viewed service segment .text).status ∧
      (viewed service segment .text).status = (viewed service segment .json).status) ∧
    ((viewed service segment .page).status = 200 ↔ ∃ u d, Names segment u ∧ service u = .ok d) ∧
    (∀ u d, Names segment u → service u = .ok d →
      Html.bodyText (viewed service segment .page).body = (viewed service segment .text).body ∧
      (viewed service segment .text).body = d.display ∧
      Details.ofJson (viewed service segment .json).body = .ok d) ∧
    ((¬ ∃ u, Names segment u) →
      viewed service segment .page = viewed service segment .text ∧
      viewed service segment .text = viewed service segment .json) ∧
    (∀ u f, Names segment u → service u = .error f → (∀ name, f ≠ .userNotFound name) →
      viewed service segment .page = viewed service segment .text ∧
      viewed service segment .text = viewed service segment .json) ∧
    (∀ u name, Names segment u → service u = .error (.userNotFound name) →
      viewed service segment .text = viewed service segment .json ∧
      (viewed service segment .page).status = 404 ∧
      (viewed service segment .page).body = Html.notFoundPage name ∧
      Html.bodyText (viewed service segment .page).body = "No vehicle registered for " ++ name) := by
  refine ⟨⟨status_viewed service hs _ _, status_viewed service hs _ _⟩, ⟨exists_ok_of_viewed hs, ?_⟩,
    ?_, ?_, ?_, ?_⟩
  · rintro ⟨u, d, hu, hd⟩
    exact (viewed_of_ok hs hu hd .page).1
  · intro u d hu hd
    have hpage : Html.bodyText (viewed service segment .page).body = d.display :=
      (viewed_of_ok hs hu hd .page).2
    have htext : (viewed service segment .text).body = d.display := (viewed_of_ok hs hu hd .text).2
    exact ⟨hpage.trans htext.symm, htext, (viewed_of_ok hs hu hd .json).2⟩
  · intro hn
    obtain ⟨response, -, hr⟩ := viewed_of_not_names service hs hn
    rw [hr, hr, hr]
    exact ⟨rfl, rfl⟩
  · intro u f hu hf hne
    have hsame : ∀ view, viewed service segment view = f.reply.response.measured := by
      intro view
      rw [viewed_of_error hs hu hf, View.failed_eq_reply hne]
    rw [hsame, hsame, hsame]
    exact ⟨rfl, rfl⟩
  · intro u name hu hf
    have hpage : (viewed service segment .page).body = Html.notFoundPage name := by
      rw [viewed_of_error hs hu hf]
      rfl
    refine ⟨?_, status_viewed_of_error hs hu hf .page, hpage, ?_⟩
    · rw [viewed_of_error hs hu hf, viewed_of_error hs hu hf]
      rfl
    · rw [hpage, Html.bodyText_notFoundPage]

/-- A make and a model that look like markup, asked for through an escape. -/
theorem views_agree_on_markup :
    '/' ∉ ['S', '%', '6', '2', 'o', 'o', 't'] ∧
      Html.bodyText (viewed (fun _ => .ok ⟨"&lt;</body>", "<b>\"\x00"⟩)
        ['S', '%', '6', '2', 'o', 'o', 't'] .page).body =
      (viewed (fun _ => .ok ⟨"&lt;</body>", "<b>\"\x00"⟩)
        ['S', '%', '6', '2', 'o', 'o', 't'] .text).body := by
  have hs : '/' ∉ ['S', '%', '6', '2', 'o', 'o', 't'] := by decide
  have hn : Names ['S', '%', '6', '2', 'o', 'o', 't'] "sboot" :=
    ⟨['S', 'b', 'o', 'o', 't'], by decide +kernel, by decide +kernel⟩
  have h := views_agree (fun _ => .ok ⟨"&lt;</body>", "<b>\"\x00"⟩) hs
  exact ⟨hs, (h.2.2.1 "sboot" ⟨"&lt;</body>", "<b>\"\x00"⟩ hn rfl).1⟩

end Garage.Web

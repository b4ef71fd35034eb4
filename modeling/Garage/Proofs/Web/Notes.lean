import Garage.Proofs.Text.Quoted
import Garage.Proofs.Web.Payload
import Garage.Registry

/-!
# What is noted stays on its line

A request may carry any name, but what is noted while it is served is of three kinds: a canonical username,
the reason why a name was refused, and what the service has failed with. The reason quotes the name. So no
note ends its line before its time, and names refused for their characters are told apart in the log.
-/

namespace Garage

open Garage.Text (OneLine oneLine_append)

/-! ## Notes -/

theorem oneLine_line {n : Note} (h : OneLine n.text.toList) : OneLine n.line.toList := by
  have hlevel : OneLine n.level.name.toList := by cases n.level <;> decide
  have harea : OneLine n.area.name.toList := by cases n.area <;> decide
  have hspaces : OneLine (List.replicate (5 - n.level.name.length) ' ') := by
    intro c hc
    rw [List.eq_of_mem_replicate hc]
    decide
  simp only [Note.line, String.toList_append, String.toList_ofList, oneLine_append]
  exact ⟨⟨⟨⟨⟨hlevel, hspaces⟩, by decide⟩, harea⟩, by decide⟩, h⟩

/-- A text after fixed words is on one line if it is itself. -/
theorem oneLine_after (words : String) {t : String} (hw : OneLine words.toList) (ht : OneLine t.toList) :
    OneLine (words ++ t).toList := by
  rw [String.toList_append]
  exact oneLine_append.mpr ⟨hw, ht⟩

theorem oneLine_of_isCanonical {u : String} (h : Username.IsCanonical u) : OneLine u.toList := by
  intro c hc
  have hn := Username.toNat_of_isAllowed (Username.isAllowed_iff.mpr (h.allowed c hc))
  unfold Text.Breaks
  omega

theorem reason_characters (normal : String) :
    (Username.Fault.characters normal).reason =
      "invalid characters in username " ++ Text.quoted normal := rfl

/-- Why a name is refused is told on one line, whatever the name. -/
theorem oneLine_reason (fault : Username.Fault) : OneLine fault.reason.toList := by
  cases fault with
  | length => decide
  | characters normal =>
    rw [reason_characters]
    refine oneLine_after _ (by decide) ?_
    rw [Text.toList_quoted]
    exact Text.oneLine_quotedList _

theorem oneLine_note {f : Failure} (h : OneLine f.payload.toList) : OneLine f.note.text.toList := by
  cases f with
  | badRequest reason => exact oneLine_after "Bad request received: " (by decide) h
  | userNotFound username => exact oneLine_after "No vehicle for " (by decide) h
  | database error => exact oneLine_after "Database error: " (by decide) h
  | internal text => exact oneLine_after "Internal server error: " (by decide) h

theorem oneLine_lookingUp {u : String} (h : Username.IsCanonical u) :
    OneLine (Web.lookingUp u).text.toList :=
  oneLine_after "Looking up vehicle for " (by decide) (oneLine_of_isCanonical h)

/-- What the registry fails with is told on one line, for a canonical username. -/
theorem oneLine_payload_lookup {db : Store.Database} {u : String} {f : Failure}
    (hu : Username.IsCanonical u) (h : Registry.lookup db u = .error f) :
    OneLine f.payload.toList := by
  unfold Registry.lookup at h
  split at h
  · next e he =>
    cases h
    unfold Store.Database.find at he
    split at he
    · cases he
      decide
    · split at he
      · cases he
      · split at he
        · cases he
        · cases he
          decide +kernel
  · cases h
    exact oneLine_of_isCanonical hu
  · cases h

namespace Web

/-! ## Requests -/

/-- The request would be served, but the name in its path has no canonical form, for this fault. -/
def RefusedFor (r : Http.Request) (fault : Username.Fault) : Prop :=
  r.method.Reads ∧ ∃ segment view name, ShowsVehicle r.path segment view ∧
    (Route.mk segment view).username? = some name ∧ Username.canonical name = .error fault

/-- The notes of a view are those of the failure, except that its page for a missing vehicle has none. -/
theorem log_failed (view : View) (f : Failure) :
    (view.failed f).log = [] ∨ (view.failed f).log = [f.note] := by
  cases view <;> cases f <;> first | exact Or.inr rfl | exact Or.inl rfl

/-- A request that asks for nobody is answered without a note, unless a name is refused. -/
theorem plan_of_no_lookup {r : Http.Request} (h : (plan r).username? = none) :
    (∃ reply, plan r = .answer reply ∧ reply.log = []) ∨ ∃ fault, RefusedFor r fault := by
  by_cases hp : ∃ segment view, ShowsVehicle r.path segment view
  · obtain ⟨segment, view, hs⟩ := hp
    by_cases hm : r.method.Reads
    · cases hd : (Route.mk segment view).username? with
      | none =>
        exact Or.inl ⟨_, (plan_of_reads hs hm).trans (planRoute_of_undecodable _ hd), rfl⟩
      | some name =>
        cases hc : Username.canonical name with
        | error fault => exact Or.inr ⟨fault, hm, segment, view, name, hs, hd, hc⟩
        | ok u =>
          rw [username?_plan_eq_some_iff.mpr ⟨hm, segment, view, hs, (names_iff view).mpr ⟨name, hd, hc⟩⟩] at h
          cases h
    · exact Or.inl ⟨_, plan_of_not_reads hs hm, rfl⟩
  · exact Or.inl ⟨_, plan_of_elsewhere hp, rfl⟩

section Requests

variable {σ : Type} (service : String → σ → Except Crash Lookup × σ) (s : σ)

/-- A refused name is noted with its fault, and nothing else is. -/
theorem log_of_refusedFor {r : Http.Request} {fault : Username.Fault} (h : RefusedFor r fault) :
    ((plan r).run service s).1.log = [(Failure.badRequest fault.reason).note] := by
  obtain ⟨hm, segment, view, name, hs, hn, hc⟩ := h
  rw [plan_of_reads hs hm, planRoute_of_fault _ hn hc]
  rfl

/-- What is noted while a request is served. -/
theorem note_cases {r : Http.Request} {note : Note} (h : note ∈ ((plan r).run service s).1.log) :
    (∃ fault, RefusedFor r fault ∧ note = (Failure.badRequest fault.reason).note) ∨
      ∃ u, AsksFor r u ∧ (note = lookingUp u ∨
        ∃ f, (service u s).1 = .ok (.error f) ∧ note = f.note) := by
  cases hu : (plan r).username? with
  | some u =>
    have hr := username?_plan_eq_some_iff.mp hu
    refine Or.inr ⟨u, hr, ?_⟩
    obtain ⟨segment, view, -, hp⟩ := plan_of_asksFor hr
    rw [hp, Plan.run] at h
    rcases ha : service u s with ⟨crash | f | d, s'⟩
    · rw [ha] at h
      exact Or.inl (List.mem_singleton.mp h)
    · rw [ha] at h
      rcases List.mem_cons.mp h with h | h
      · exact Or.inl h
      · have h : note ∈ (view.failed f).log := h
        rcases log_failed view f with hl | hl
        · rw [hl] at h
          cases h
        · rw [hl] at h
          exact Or.inr ⟨f, rfl, List.mem_singleton.mp h⟩
    · rw [ha] at h
      exact Or.inl (List.mem_singleton.mp h)
  | none =>
    rcases plan_of_no_lookup hu with ⟨reply, hp, hl⟩ | ⟨fault, hf⟩
    · rw [hp] at h
      have h : note ∈ reply.log := h
      rw [hl] at h
      cases h
    · rw [log_of_refusedFor service s hf] at h
      exact Or.inl ⟨fault, hf, List.mem_singleton.mp h⟩

theorem isCanonical_of_asksFor {r : Http.Request} {u : String} (h : AsksFor r u) :
    Username.IsCanonical u := by
  obtain ⟨-, segment, view, -, hu⟩ := h
  exact isCanonical_of_names hu

theorem oneLine_of_mem_log
    (h : ∀ u f, Username.IsCanonical u → (service u s).1 = .ok (.error f) → OneLine f.payload.toList)
    {r : Http.Request} {note : Note} (hn : note ∈ ((plan r).run service s).1.log) :
    OneLine note.line.toList := by
  apply oneLine_line
  rcases note_cases service s hn with ⟨fault, -, rfl⟩ | ⟨u, hu, rfl | ⟨f, hf, rfl⟩⟩
  · exact oneLine_note (f := .badRequest fault.reason) (oneLine_reason fault)
  · exact oneLine_lookingUp (isCanonical_of_asksFor hu)
  · exact oneLine_note (h u f (isCanonical_of_asksFor hu) hf)

end Requests

theorem text_note_characters (normal : String) :
    (Failure.badRequest (Username.Fault.characters normal).reason).note.text =
      "Bad request received: " ++ ("invalid characters in username " ++ Text.quoted normal) := rfl

/-- The note of a refused name tells which name it was. -/
theorem text_note_injective {normal normal' : String}
    (h : (Failure.badRequest (Username.Fault.characters normal).reason).note.text =
      (Failure.badRequest (Username.Fault.characters normal').reason).note.text) :
    normal = normal' := by
  rw [text_note_characters, text_note_characters, String.append_right_inj, String.append_right_inj] at h
  exact Text.quoted_injective h

/-- Whatever is requested, no note made for it has a control character or one that ends a line, if the
service fails in words that have none; the registry does so, for the usernames that it is asked for. A name
that is refused for its characters is noted alone, and no two of them are noted alike. -/
theorem log_cannot_be_forged {σ : Type} (service : String → σ → Except Crash Lookup × σ) (s : σ)
    (r : Http.Request) :
    ((∀ u f, Username.IsCanonical u → (service u s).1 = .ok (.error f) →
        OneLine f.payload.toList) →
      ∀ note ∈ ((plan r).run service s).1.log, OneLine note.line.toList) ∧
    (∀ db u f, Username.IsCanonical u → (Registry.service u db).1 = .ok (.error f) →
      OneLine f.payload.toList) ∧
    (∀ r' normal normal', RefusedFor r (.characters normal) → RefusedFor r' (.characters normal') →
      ∃ note note', ((plan r).run service s).1.log = [note] ∧
        ((plan r').run service s).1.log = [note'] ∧ (note.text = note'.text → normal = normal')) := by
  refine ⟨fun h note hn => oneLine_of_mem_log service s h hn, ?_, ?_⟩
  · intro db u f hu h
    exact oneLine_payload_lookup hu (Except.ok.inj h)
  · intro r' normal normal' h h'
    exact ⟨_, _, log_of_refusedFor service s h, log_of_refusedFor service s h', text_note_injective⟩

/-- A name with a line feed, which would begin a line of its own. -/
theorem log_cannot_be_forged_by_line_feed :
    RefusedFor ⟨.get, "/a%0AINFO/vehicle".toList⟩ (.characters "a\ninfo") ∧
      ∀ note ∈ ((plan ⟨.get, "/a%0AINFO/vehicle".toList⟩).run Registry.service .empty).1.log,
        OneLine note.line.toList := by
  have h := log_cannot_be_forged Registry.service .empty ⟨.get, "/a%0AINFO/vehicle".toList⟩
  refine ⟨⟨Or.inl rfl, ['a', '%', '0', 'A', 'I', 'N', 'F', 'O'], .text, "a\nINFO", ⟨rfl, by decide⟩,
    by decide +kernel, by decide +kernel⟩, h.1 (h.2.1 .empty)⟩

end Web

end Garage

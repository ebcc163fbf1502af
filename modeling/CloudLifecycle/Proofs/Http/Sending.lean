import CloudLifecycle.Http.Client
import CloudLifecycle.Proofs.Runs.Posing

/-!
# Sending one request

What is sent for a URL is the one request that was prepared for it, if one could be prepared, and
nothing comes before it.  It stays without an answer or gets a response, whichever this is.
-/

set_option autoImplicit false

namespace CloudLifecycle

namespace Http

variable {method : HttpMethod} {url : String} {authorization : Option String} {body : String}
  {request : HttpRequest} {events : List (Program.Event WebAction WebAction.Answer)}

/-- Only the request that was prepared is sent. -/
theorem asks_send {S : WebAction → Prop}
    (h : ∀ request, prepare method url authorization body = .ok request → S (.send request)) :
    Program.Asks S (send method url authorization body) := by
  unfold send
  cases prepared : prepare method url authorization body with
  | error e => exact .done _
  | ok request =>
    refine Program.Asks.bind (.request (h request prepared)) fun answer => ?_
    cases answer <;> exact .done _

/-- The request that is sent is the one that was prepared. -/
theorem prepare_of_poses (h : Program.Poses (send method url authorization body) events
    (.send request)) : prepare method url authorization body = .ok request := by
  have asks : Program.Asks (fun action => ∀ request, action = .send request →
      prepare method url authorization body = .ok request)
      (send method url authorization body) := asks_send fun sent prepared request same => by
    rw [prepared, WebAction.send.inj same]
  exact asks.of_poses h request rfl

/-- Nothing comes before a request that is sent. -/
theorem past_of_poses_send {posed : WebAction}
    (h : Program.Poses (send method url authorization body) events posed) : events = [] := by
  unfold send at h
  split at h
  · exact absurd h Program.not_poses_done
  · rcases Program.poses_bind_iff.1 h with asked | ⟨_, _, answer, _, _, nothing⟩
    · exact (Program.poses_request_iff.1 asked).1
    · cases answer <;> exact absurd nothing Program.not_poses_done

/-- A request is not made, is not answered, or gets a response. -/
theorem outcome_of_send {outcome : Except HttpError HttpResponse}
    (h : Program.Runs (send method url authorization body) events outcome) :
    (∃ e, outcome = .error e ∧
        (events = [] ∨ ∃ request, events = [⟨.send request, none⟩])) ∨
      ∃ request response, prepare method url authorization body = .ok request ∧
        events = [⟨.send request, some response⟩] ∧ outcome = .ok response := by
  unfold send at h
  cases prepared : prepare method url authorization body with
  | error e =>
    rw [prepared] at h
    obtain ⟨rfl, rfl⟩ := Program.runs_done_iff.1 h
    exact .inl ⟨e, rfl, .inl rfl⟩
  | ok request =>
    rw [prepared] at h
    obtain ⟨_, _, answer, rfl, asked, rest⟩ := Program.runs_bind_iff.1 h
    obtain rfl := Program.runs_request_iff.1 asked
    cases answer with
    | none =>
      obtain ⟨rfl, rfl⟩ := Program.runs_done_iff.1 rest
      exact .inl ⟨_, rfl, .inr ⟨request, rfl⟩⟩
    | some response =>
      obtain ⟨rfl, rfl⟩ := Program.runs_done_iff.1 rest
      exact .inr ⟨request, response, rfl, rfl, rfl⟩

/-- A request that was prepared may get any response. -/
theorem runs_send (prepared : prepare method url authorization body = .ok request)
    (response : HttpResponse) :
    Program.Runs (send method url authorization body) [⟨.send request, some response⟩]
      (.ok response) := by
  unfold send
  rw [prepared]
  exact Program.runs_bind_iff.2 ⟨_, [], some response, rfl, Program.runs_request_iff.2 rfl,
    .done _⟩

end Http

end CloudLifecycle

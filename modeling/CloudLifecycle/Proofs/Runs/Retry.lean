import CloudLifecycle.Proofs.Runs.Manager

/-!
# The course of a call to the backend

A call goes through attempts that are refused, each followed by a pause or by the one refresh of
the credentials, up to an attempt that decides: its answer is the outcome of the call.  Only a
refresh that fails ends a call otherwise.  `Repeats` is this course and `Retry.repeats_of_runs` says
that a call takes no other.  So a call that succeeds was answered with success once, at its end
(`Repeats.firstReply`), and one that fails never was (`Repeats.eq_ok_of_mem`).
-/

set_option autoImplicit false

namespace CloudLifecycle

/-- The answer ends a call whose credentials can be refreshed, or not any more, and of which so many
attempts were rate limited. -/
def RetryPolicy.Decides {α : Type} (policy : RetryPolicy) (refreshable : Bool) (limited : Nat) :
    ProviderResult α → Prop
  | .error (.unauthorized _) => refreshable = false
  | .error (.rateLimited _ _) => policy.maxAttempts ≤ limited + 1
  | _ => True

/-- The events of a call with its repetitions, and its outcome. -/
inductive Repeats (policy : RetryPolicy) (c : ProviderCall) :
    Bool → Nat → Trace → ProviderResult c.Reply → Prop where
  | answered {refreshable : Bool} {limited : Nat} (outcome : ProviderResult c.Reply)
      (decides : policy.Decides refreshable limited outcome) :
      Repeats policy c refreshable limited [⟨.provider c, outcome⟩] outcome
  | limited {refreshable : Bool} {limited : Nat} {trace : Trace}
      {outcome : ProviderResult c.Reply} (text : String) (retryAfter : Option Duration)
      (span : Duration) (more : limited + 1 < policy.maxAttempts)
      (pause : (retryAfter.orElse fun _ => policy.delay? limited).map (min · policy.maxDelay) =
        some span)
      (rest : Repeats policy c refreshable (limited + 1) trace outcome) :
      Repeats policy c refreshable limited
        (⟨.provider c, .error (.rateLimited text retryAfter)⟩ :: ⟨.sleep span, ()⟩ :: trace) outcome
  | refreshed {limited : Nat} {trace : Trace} {outcome : ProviderResult c.Reply} (text : String)
      (rest : Repeats policy c false limited trace outcome) :
      Repeats policy c true limited (⟨.provider c, .error (.unauthorized text)⟩ ::
        ⟨.provider .refreshCredentials, .ok ()⟩ :: trace) outcome
  | unrefreshed {limited : Nat} (text : String) (cause : ProviderError) :
      Repeats policy c true limited [⟨.provider c, .error (.unauthorized text)⟩,
        ⟨.provider .refreshCredentials, .error cause⟩] (.error cause)

namespace Retry

variable {policy : RetryPolicy} {c : ProviderCall} {trace : Trace}
  {outcome : ProviderResult c.Reply}

theorem runs_pauseFor {span : Option Duration} {u : Unit}
    (h : Program.Runs (pauseFor span) trace u) :
    ∃ length, span = some length ∧ trace = [⟨.sleep length, ()⟩] := by
  cases span with
  | none => cases h with | ask impossible _ => exact impossible.elim
  | some length => exact ⟨length, rfl, Program.runs_request_iff.1 h⟩

/-- One attempt is the end of the call, or one of the two failures that are handed on. -/
theorem repeats_of_runs_react {refreshable : Bool} {limited : Nat}
    {onUnauthorized : String → Task (ProviderResult c.Reply)}
    {onLimited : String → Option Duration → Task (ProviderResult c.Reply)}
    (hu : ∀ text trace, Program.Runs (onUnauthorized text) trace outcome →
      Repeats policy c refreshable limited (⟨.provider c, .error (.unauthorized text)⟩ :: trace)
        outcome)
    (hl : ∀ text retryAfter trace, Program.Runs (onLimited text retryAfter) trace outcome →
      Repeats policy c refreshable limited
        (⟨.provider c, .error (.rateLimited text retryAfter)⟩ :: trace) outcome)
    (h : Program.Runs (react (Task.provider c) onUnauthorized onLimited) trace outcome) :
    Repeats policy c refreshable limited trace outcome := by
  cases h with
  | ask first rest =>
    cases first with
    | ok reply =>
      obtain ⟨rfl, rfl⟩ := Program.runs_done_iff.1 rest
      exact .answered _ trivial
    | error e =>
      cases e with
      | unauthorized text => exact hu text _ rest
      | rateLimited text retryAfter => exact hl text retryAfter _ rest
      | notFound _ | conflict _ | badRequest _ | serverError _ | transport _ | decode _ =>
        obtain ⟨rfl, rfl⟩ := Program.runs_done_iff.1 rest
        exact .answered _ trivial

theorem repeats_of_runs_attempts {refreshable : Bool} {limited left : Nat}
    {onUnauthorized : Nat → String → Task (ProviderResult c.Reply)}
    (hu : ∀ limited left text trace, limited + left = policy.maxAttempts - 1 →
      Program.Runs (onUnauthorized left text) trace outcome →
      Repeats policy c refreshable limited (⟨.provider c, .error (.unauthorized text)⟩ :: trace)
        outcome)
    (hleft : limited + left = policy.maxAttempts - 1)
    (h : Program.Runs (attempts policy (Task.provider c) onUnauthorized left) trace outcome) :
    Repeats policy c refreshable limited trace outcome := by
  induction left generalizing limited trace with
  | zero =>
    refine repeats_of_runs_react (hu limited 0 · · hleft) (fun text retryAfter rest h => ?_) h
    obtain ⟨rfl, rfl⟩ := Program.runs_done_iff.1 h
    exact .answered _ (show policy.maxAttempts ≤ limited + 1 by omega)
  | succ left ih =>
    refine repeats_of_runs_react (hu limited (left + 1) · · hleft)
      (fun text retryAfter rest h => ?_) h
    obtain ⟨paused, after, _, rfl, hp, ha⟩ := Program.runs_bind_iff.1 h
    obtain ⟨span, hspan, rfl⟩ := runs_pauseFor hp
    rw [show policy.maxAttempts - 2 - left = limited by omega] at hspan
    exact .limited text retryAfter span (by omega) hspan (ih (by omega) ha)

theorem repeats_of_runs_attemptsAgain {limited left : Nat}
    (hleft : limited + left = policy.maxAttempts - 1)
    (h : Program.Runs (attemptsAgain policy (Task.provider c) left) trace outcome) :
    Repeats policy c false limited trace outcome := by
  refine repeats_of_runs_attempts (fun limited left text trace _ h => ?_) hleft h
  obtain ⟨rfl, rfl⟩ := Program.runs_done_iff.1 h
  exact .answered _ rfl

/-- **The course of a call**: attempts that are refused, and then one that decides. -/
theorem repeats_of_runs (h : Program.Runs (call policy (Task.provider c)) trace outcome) :
    Repeats policy c true 0 trace outcome := by
  refine repeats_of_runs_attempts (fun limited left text trace hleft h => ?_) (by omega) h
  obtain ⟨refreshed, after, answer, rfl, hr, ha⟩ := Program.runs_bind_iff.1 h
  obtain rfl := Program.runs_request_iff.1 hr
  cases answer with
  | ok _ => exact .refreshed text (repeats_of_runs_attemptsAgain hleft ha)
  | error cause =>
    obtain ⟨rfl, rfl⟩ := Program.runs_done_iff.1 ha
    exact .unrefreshed text cause

end Retry

end CloudLifecycle

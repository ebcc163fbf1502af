import CloudLifecycle.Lifecycle.Self
import CloudLifecycle.Lifecycle.Vm
import CloudLifecycle.Proofs.Runs.Verb

/-!
# Which calls a verb may make

`Verb.Calls S verb` says that whatever it is answered, the verb leaves the settings store alone and
makes no calls to the backend but those of the set `S` and refreshes of the credentials.  Repeating
and polling make the calls that their parts make, so a wait for a VM calls only its description.
-/

set_option autoImplicit false

namespace CloudLifecycle

/-- The action is a call of the set or a refresh of the credentials, or it concerns neither the
backend nor the settings store. -/
def Action.Within (S : ProviderCall → Prop) : Action → Prop
  | .provider call => call = .refreshCredentials ∨ S call
  | .settings _ => False
  | _ => True

/-- Whatever it is answered, the task keeps to the calls of the set. -/
def Task.Calls {α : Type} (S : ProviderCall → Prop) (task : Task α) : Prop :=
  Program.Asks (Action.Within S) task

/-- Whatever it is answered, the verb keeps to the calls of the set. -/
def Verb.Calls {α : Type} (S : ProviderCall → Prop) (verb : Verb α) : Prop :=
  Program.Asks (Action.Within S) verb.run

/-- The calls of the trace are those of the set and refreshes of the credentials. -/
def Trace.CallsIn (S : ProviderCall → Prop) (trace : Trace) : Prop :=
  ∀ e ∈ trace, ∀ c, e.question = .provider c → c = .refreshCredentials ∨ S c

variable {α β : Type} {S T : ProviderCall → Prop}

namespace Trace.CallsIn

variable {trace more : Trace}

theorem nil : CallsIn S [] := by
  intro e he
  simp at he

theorem append (h : CallsIn S trace) (hm : CallsIn S more) : CallsIn S (trace ++ more) := by
  intro e he
  rcases List.mem_append.1 he with he | he
  · exact h e he
  · exact hm e he

theorem mono (h : CallsIn S trace) (hST : ∀ call, S call → T call) : CallsIn T trace :=
  fun e he c hc => (h e he c hc).imp_right (hST c)

/-- A call outside the set was not made. -/
theorem not_mem (h : CallsIn S trace) {c : ProviderCall} (hr : c ≠ .refreshCredentials)
    (hc : ¬S c) (answer : ProviderResult c.Reply) : ⟨.provider c, answer⟩ ∉ trace :=
  fun he => (h _ he c rfl).elim hr hc

end Trace.CallsIn

theorem Action.Within.mono (h : ∀ call, S call → T call) :
    ∀ action, Action.Within S action → Action.Within T action
  | .provider call, hs => hs.imp_right (h call)
  | .settings _, hs => hs
  | .lookUpSelf, _ | .recallSelf, _ | .rememberSelf _, _ | .lockSelf, _ | .unlockSelf, _
  | .sleep _, _ | .clock, _ | .cancelled, _ | .freshName, _ | .abort, _ => trivial

namespace Task

theorem calls_provider (c : ProviderCall) : Calls (· = c) (provider c) := .request (.inr rfl)

theorem calls_refresh : Calls S (provider .refreshCredentials) := .request (.inl rfl)

theorem calls_sleep (span : Duration) : Calls S (sleep span) := .request trivial

theorem calls_clock : Calls S clock := .request trivial

theorem calls_cancelled : Calls S cancelled := .request trivial

theorem calls_freshName : Calls S freshName := .request trivial

theorem calls_abort : Calls S (abort : Task α) := .ask trivial fun impossible => nomatch impossible

end Task

namespace Verb

variable {verb : Verb α}

theorem calls_pure (a : α) : Calls S (pure a : Verb α) := .done _

theorem calls_throw (e : CpiError) : Calls S (throw e : Verb α) := .done _

theorem calls_outcome (outcome : Except CpiError α) :
    Calls S (ExceptT.mk (pure outcome) : Verb α) := .done _

theorem calls_lift {task : Task α} (h : task.Calls S) : Calls S (ExceptT.lift task) :=
  h.bind fun _ => .done _

/-- A task whose outcome is that of the verb makes the calls of the verb. -/
theorem calls_mapError {ε : Type} {task : Task (Except ε α)} (h : task.Calls S)
    (f : ε → CpiError) :
    Calls S (ExceptT.mk do return (← task).mapError f : Verb α) :=
  h.bind fun _ => .done _

namespace Calls

theorem mono (hv : verb.Calls S) (h : ∀ call, S call → T call) : verb.Calls T :=
  Program.Asks.mono (Action.Within.mono h) hv

/-- A verb that keeps to some set leaves the settings store alone. -/
theorem any (hv : verb.Calls S) : verb.Calls fun _ => True := hv.mono fun _ _ => trivial

theorem bind {f : α → Verb β} (hv : verb.Calls S) (hf : ∀ a, (f a).Calls S) :
    Calls S (verb >>= f) := by
  refine Program.Asks.bind hv fun first => ?_
  cases first with
  | error e => exact .done _
  | ok a => exact hf a

theorem tryCatch {handle : CpiError → Verb α} (hv : verb.Calls S)
    (hh : ∀ e, (handle e).Calls S) : Calls S (tryCatch verb handle) := by
  refine Program.Asks.bind hv fun first => ?_
  cases first with
  | error e => exact hh e
  | ok a => exact .done _

theorem discard (hv : verb.Calls S) : Calls S (discard verb) := hv.bind fun _ => .done _

/-- The events of a run keep to the set. -/
theorem mem_of_runs (hv : verb.Calls S) {trace : Trace} {result : Except CpiError α}
    (h : verb.Runs trace result) : ∀ e ∈ trace, e.question.Within S :=
  Program.Asks.mem_of_runs hv h

/-- The calls of a run are those of the set and refreshes of the credentials. -/
theorem callsIn (hv : verb.Calls S) {trace : Trace} {result : Except CpiError α}
    (h : verb.Runs trace result) : trace.CallsIn S := by
  intro e he c hc
  have within := hv.mem_of_runs h e he
  rw [hc] at within
  exact within

end Calls

end Verb

/-! ## Repeating and polling -/

namespace Retry

variable {attempt : Task (ProviderResult α)}

theorem calls_pauseFor (span : Option Duration) : (pauseFor span).Calls S := by
  cases span with
  | none => exact Task.calls_abort
  | some span => exact Task.calls_sleep span

theorem calls_pause (policy : RetryPolicy) (index : Nat) (retryAfter : Option Duration) :
    (pause policy index retryAfter).Calls S :=
  calls_pauseFor _

theorem calls_react (h : attempt.Calls S) {unauthorized : String → Task (ProviderResult α)}
    {limited : String → Option Duration → Task (ProviderResult α)}
    (hu : ∀ text, (unauthorized text).Calls S)
    (hl : ∀ text retryAfter, (limited text retryAfter).Calls S) :
    (react attempt unauthorized limited).Calls S := by
  refine Program.Asks.bind h fun outcome => ?_
  split
  · exact hu _
  · exact hl _ _
  · exact .done _

theorem calls_attempts (policy : RetryPolicy) (h : attempt.Calls S)
    {unauthorized : Nat → String → Task (ProviderResult α)}
    (hu : ∀ left text, (unauthorized left text).Calls S) (left : Nat) :
    (attempts policy attempt unauthorized left).Calls S := by
  induction left with
  | zero => exact calls_react h (hu 0) fun _ _ => .done _
  | succ left ih =>
    exact calls_react h (hu (left + 1)) fun _ _ => (calls_pause ..).bind fun _ => ih

/-- A call with its repetitions calls what one attempt does. -/
theorem calls_call (policy : RetryPolicy) (h : attempt.Calls S) :
    (call policy attempt).Calls S := by
  refine calls_attempts policy h (fun left _ => ?_) _
  refine Program.Asks.bind Task.calls_refresh fun refreshed => ?_
  cases refreshed with
  | error e => exact .done _
  | ok _ => exact calls_attempts policy h (fun _ _ => .done _) left

theorem calls_describe (policy : RetryPolicy) {attempt : Task (ProviderResult (Option α))}
    (h : attempt.Calls S) : (describe policy attempt).Calls S :=
  (calls_call policy h).bind fun _ => .done _

theorem calls_roundsLeft {pauseSpan : Duration} {accepts : ProviderError → Bool}
    (h : attempt.Calls S) (left : Nat) :
    (roundsLeft pauseSpan accepts attempt left).Calls S := by
  induction left with
  | zero => exact h
  | succ left ih =>
    refine Program.Asks.bind h fun outcome => ?_
    split
    · split
      · exact Program.Asks.bind (Task.calls_sleep _) fun _ => ih
      · exact .done _
    · exact .done _

end Retry

namespace Waiter

variable {σ : Type} [IsState σ] [DecidableEq σ] (w : Waiter)

theorem calls_checkpoint (kind : ResourceKind) (id : String) (expected : List String)
    (started : Duration) : (w.checkpoint kind id expected started).Calls S := by
  refine (Verb.calls_lift Task.calls_cancelled).bind fun cancelled => ?_
  dsimp only
  have look : Verb.Calls S (do
      let now ← Task.clock
      if w.timeout < now - started then throw (CpiError.timeout kind id expected) : Verb Unit) := by
    refine (Verb.calls_lift Task.calls_clock).bind fun now => ?_
    split
    · exact Verb.calls_throw _
    · exact Verb.calls_pure _
  split
  · exact (Verb.calls_throw _).bind fun _ => look
  · exact look

theorem calls_poll (kind : ResourceKind) (id : String) (targets : List σ) {fetch : Verb σ}
    (h : fetch.Calls S) (started : Duration) (left : Nat) :
    (w.poll kind id targets fetch started left).Calls S := by
  induction left with
  | zero => exact Verb.calls_lift Task.calls_abort
  | succ left ih =>
    refine (w.calls_checkpoint ..).bind fun _ => h.bind fun state => ?_
    dsimp only
    have look : Verb.Calls S (if targets.contains state then pure state else do
        ExceptT.lift (Task.sleep w.interval)
        poll w kind id targets fetch started left : Verb σ) := by
      split
      · exact Verb.calls_pure _
      · exact (Verb.calls_lift (Task.calls_sleep _)).bind fun _ => ih
    split
    · exact (Verb.calls_throw _).bind fun _ => look
    · exact look

/-- A wait calls what a poll does. -/
theorem calls_wait (kind : ResourceKind) (id : String) (targets : List σ) {fetch : Verb σ}
    (h : fetch.Calls S) : (w.wait kind id targets fetch).Calls S :=
  (Verb.calls_lift Task.calls_clock).bind fun _ => w.calls_poll kind id targets h _ _

end Waiter

end CloudLifecycle

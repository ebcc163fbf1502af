import CloudLifecycle.Proofs.Runs.Calls
import Mathlib.Data.List.Forall2

/-!
# Answers that say the same

A backend may say in two ways that a resource is absent: its description is empty, or it is refused
as not found.  `Action.Alike` relates such answers to a description, and no other two answers.

`Program.Similar E p p'` says that two programs which get alike answers ask the same questions and
come to results that `E` relates; a program is blind if it is similar to itself up to equality.
What comes after a description makes the two spellings one (`Retry.blind_describe`), so a wait whose
fetch is blind is blind, and so is everything that makes no description
(`Verb.Calls.blind`).

Surroundings whose answers are alike therefore lead similar programs to related results and to the
same state (`Program.Similar.run_alike`), and a blind one to the same result.
-/

set_option autoImplicit false

namespace CloudLifecycle

/-- The answer to a description says that there is nothing. -/
inductive Absent {α : Type} : ProviderResult (Option α) → Prop where
  | nothing : Absent (.ok none)
  | notFound (text : String) : Absent (.error (.notFound text))

/-- The answers to a description are the same, or both say that there is nothing. -/
def Described {α : Type} (a a' : ProviderResult (Option α)) : Prop :=
  a = a' ∨ (Absent a ∧ Absent a')

/-- The answers to a call say the same. -/
def ProviderCall.Alike : (c : ProviderCall) → ProviderResult c.Reply → ProviderResult c.Reply → Prop
  | .describeVm _ => Described
  | .describeVolume _ => Described
  | .describeSnapshot _ => Described
  | .describeImage _ => Described
  | .describeFloatingIp _ => Described
  | _ => Eq

/-- The answers to an action say the same. -/
def Action.Alike : (action : Action) → action.Answer → action.Answer → Prop
  | .provider c => c.Alike
  | _ => Eq

/-- An answer that differs from another one does not say the same. -/
def Action.Plain (action : Action) : Prop := ∀ a a', action.Alike a a' → a = a'

/-- The same action was taken, and the answers say the same. -/
inductive Program.Event.Alike :
    Program.Event Action Action.Answer → Program.Event Action Action.Answer → Prop where
  | mk {action : Action} {a a' : action.Answer} (h : action.Alike a a') :
      Alike ⟨action, a⟩ ⟨action, a'⟩

/-- The same actions were taken, and the answers say the same. -/
def Trace.Alike : Trace → Trace → Prop := List.Forall₂ Program.Event.Alike

/-- In each state the answers of the two surroundings say the same and lead to the same state. -/
structure Surroundings.Alike {ω : Type} (s s' : Surroundings Action Action.Answer ω) : Prop where
  answer (action : Action) (state : ω) :
    Option.Rel action.Alike (s.answer action state).1 (s'.answer action state).1
  state (action : Action) (state : ω) :
    (s.answer action state).2 = (s'.answer action state).2

/-! ## Refusals in the place of empty descriptions -/

/-- The answer to a description, which is refused where there is nothing. -/
def Described.refused {α : Type} (text : String) :
    ProviderResult (Option α) → ProviderResult (Option α)
  | .ok none => .error (.notFound text)
  | other => other

theorem Described.of_refused {α : Type} (text : String) (answer : ProviderResult (Option α)) :
    Described answer (refused text answer) := by
  unfold refused
  split
  · exact .inr ⟨.nothing, .notFound text⟩
  · exact .inl rfl

/-- The answer to a call, which is refused if it is a description and there is nothing. -/
def ProviderCall.refused (text : String) :
    (c : ProviderCall) → ProviderResult c.Reply → ProviderResult c.Reply
  | .describeVm _ | .describeVolume _ | .describeSnapshot _ | .describeImage _
  | .describeFloatingIp _ => Described.refused text
  | _ => id

theorem ProviderCall.alike_refused (text : String) (c : ProviderCall)
    (answer : ProviderResult c.Reply) : c.Alike answer (c.refused text answer) := by
  cases c with
  | describeVm _ | describeVolume _ | describeSnapshot _ | describeImage _
  | describeFloatingIp _ => exact Described.of_refused text answer
  | _ => rfl

/-- The surroundings, but where there is nothing they refuse descriptions as not found. -/
def Surroundings.refusing {ω : Type} (s : Surroundings Action Action.Answer ω) (text : String) :
    Surroundings Action Action.Answer ω where
  answer
    | .provider c, state => (s.answer (.provider c) state).map (Option.map (c.refused text)) id
    | action, state => s.answer action state

theorem Surroundings.alike_refusing {ω : Type} (s : Surroundings Action Action.Answer ω)
    (text : String) : s.Alike (s.refusing text) where
  answer action state := by
    have same (answer : Option action.Answer) (plain : action.Alike = Eq) :
        Option.Rel action.Alike answer answer := by
      rw [plain]
      cases answer with
      | none => exact .none
      | some a => exact .some rfl
    cases action with
    | provider c =>
      show Option.Rel c.Alike (s.answer (.provider c) state).1
        ((s.answer (.provider c) state).1.map (c.refused text))
      cases (s.answer (.provider c) state).1 with
      | none => exact .none
      | some answer => exact .some (c.alike_refused text answer)
    | settings _ | lookUpSelf | recallSelf | rememberSelf _ | lockSelf | unlockSelf | sleep _
    | clock | cancelled | freshName | abort => exact same _ rfl
  state action state := by
    cases action <;> rfl

/-! ## Similar programs -/

variable {α β γ δ : Type}

/-- Two programs that get alike answers ask the same questions and come to related results. -/
inductive Program.Similar (E : α → β → Prop) : Task α → Task β → Prop where
  | done {a : α} {b : β} (h : E a b) : Similar E (.done a) (.done b)
  | ask {action : Action} {next : action.Answer → Task α} {next' : action.Answer → Task β}
      (rest : ∀ a a', action.Alike a a' → Similar E (next a) (next' a')) :
      Similar E (.ask action next) (.ask action next')

/-- The task does not tell alike answers from one another. -/
def Task.Blind (task : Task α) : Prop := Program.Similar Eq task task

/-- The verb does not tell alike answers from one another. -/
def Verb.Blind (verb : Verb α) : Prop := Task.Blind verb.run

namespace Program.Similar

variable {E : α → β → Prop} {F : γ → δ → Prop} {p : Task α} {p' : Task β}

theorem bind {f : α → Task γ} {f' : β → Task δ} (hp : Similar E p p')
    (hf : ∀ a b, E a b → Similar F (f a) (f' b)) : Similar F (p.bind f) (p'.bind f') := by
  induction hp with
  | done h => exact hf _ _ h
  | ask _ ih => exact .ask ih

variable {ω : Type} {s s' : Surroundings Action Action.Answer ω}

/-- Alike surroundings lead similar programs to related results and to the same state. -/
theorem run_alike (hp : Similar E p p') (hs : s.Alike s') (start : ω) :
    Option.Rel E (s.run p start).1 (s'.run p' start).1 ∧
      (s.run p start).2 = (s'.run p' start).2 ∧
      Trace.Alike (s.events p start) (s'.events p' start) := by
  induction hp generalizing start with
  | done h => exact ⟨.some h, rfl, List.Forall₂.nil⟩
  | @ask action next next' _ ih =>
    have answers := hs.answer action start
    have states := hs.state action start
    unfold Surroundings.run Surroundings.events
    generalize s.answer action start = reply at answers states ⊢
    generalize s'.answer action start = reply' at answers states ⊢
    obtain ⟨answer, later⟩ := reply
    obtain ⟨answer', later'⟩ := reply'
    obtain rfl : later = later' := states
    cases answers with
    | none => exact ⟨.none, rfl, List.Forall₂.nil⟩
    | @some a a' alike =>
      obtain ⟨results, finals, events⟩ := ih a a' alike later
      exact ⟨results, finals, List.Forall₂.cons (.mk alike) events⟩

end Program.Similar

namespace Task

/-- Alike surroundings lead a blind task to the same result and to the same state. -/
theorem Blind.run_eq {ω : Type} {s s' : Surroundings Action Action.Answer ω} {task : Task α}
    (h : task.Blind) (hs : s.Alike s') (start : ω) : s.run task start = s'.run task start := by
  obtain ⟨results, finals, -⟩ := Program.Similar.run_alike h hs start
  refine Prod.ext ?_ finals
  generalize (s.run task start).1 = result at results ⊢
  generalize (s'.run task start).1 = result' at results ⊢
  cases results with
  | none => rfl
  | some same => rw [same]

theorem blind_request {action : Action} (h : action.Plain) : Blind (Program.request action) :=
  .ask fun a a' alike => .done (h a a' alike)

/-- A task that takes only plain actions is blind. -/
theorem blind_of_asks {task : Task α} (h : Program.Asks Action.Plain task) : task.Blind := by
  induction h with
  | done value => exact .done rfl
  | ask plain _ ih =>
    refine .ask fun a a' alike => ?_
    obtain rfl := plain a a' alike
    exact ih a

theorem Blind.bind {task : Task α} {f : α → Task β} (h : task.Blind) (hf : ∀ a, (f a).Blind) :
    Blind (task >>= f) := by
  refine Program.Similar.bind h fun a a' same => ?_
  cases same
  exact hf a

end Task

namespace Verb

variable {verb : Verb α}

theorem blind_pure (a : α) : Blind (pure a : Verb α) := .done rfl

theorem blind_throw (e : CpiError) : Blind (throw e : Verb α) := .done rfl

/-- What would come after a failure does not matter. -/
theorem blind_throw_bind (e : CpiError) (f : α → Verb β) : Blind (throw e >>= f) := .done rfl

theorem blind_outcome (outcome : Except CpiError α) :
    Blind (ExceptT.mk (pure outcome) : Verb α) := .done rfl

/-- A verb whose calls are no descriptions is blind. -/
theorem Calls.blind {S : ProviderCall → Prop} (h : verb.Calls S)
    (plain : ∀ c, S c → (Action.provider c).Plain) : verb.Blind := by
  refine Task.blind_of_asks (Program.Asks.mono (fun action within => ?_) h)
  cases action with
  | provider c =>
    rcases within with rfl | called
    · exact fun _ _ => id
    · exact plain c called
  | settings call => exact within.elim
  | lookUpSelf | recallSelf | rememberSelf _ | lockSelf | unlockSelf | sleep _ | clock
  | cancelled | freshName | abort => exact fun _ _ => id

/-- A task as a verb that renames its failures is blind if the task is. -/
theorem blind_mapError {ε : Type} {task : Task (Except ε α)} (h : task.Blind)
    (f : ε → CpiError) : Blind (ExceptT.mk do return (← task).mapError f : Verb α) :=
  h.bind fun _ => .done rfl

theorem blind_settings (c : SettingsCall) : Blind (settings c) :=
  blind_mapError (Task.blind_request fun _ _ => id) _

theorem blind_freshName : Blind (ExceptT.lift Task.freshName) :=
  Calls.blind (S := fun _ => False) (calls_lift Task.calls_freshName) fun _ => False.elim

namespace Blind

theorem bind {f : α → Verb β} (hv : verb.Blind) (hf : ∀ a, (f a).Blind) :
    Blind (verb >>= f) := by
  refine Task.Blind.bind hv fun first => ?_
  cases first with
  | error e => exact .done rfl
  | ok a => exact hf a

theorem tryCatch {handle : CpiError → Verb α} (hv : verb.Blind) (hh : ∀ e, (handle e).Blind) :
    Blind (tryCatch verb handle) := by
  refine Task.Blind.bind hv fun first => ?_
  cases first with
  | error e => exact hh e
  | ok a => exact .done rfl

theorem discard (hv : verb.Blind) : Blind (discard verb) := hv.bind fun _ => blind_pure _

end Blind

end Verb

/-! ## Repeating and polling -/

namespace Retry

variable {policy : RetryPolicy} {attempt : Task (ProviderResult (Option α))}

theorem similar_react (h : Program.Similar Described attempt attempt)
    {unauthorized : String → Task (ProviderResult (Option α))}
    {limited : String → Option Duration → Task (ProviderResult (Option α))}
    (hu : ∀ text, Program.Similar Described (unauthorized text) (unauthorized text))
    (hl : ∀ text retryAfter,
      Program.Similar Described (limited text retryAfter) (limited text retryAfter)) :
    Program.Similar Described (react attempt unauthorized limited)
      (react attempt unauthorized limited) := by
  refine h.bind fun a a' alike => ?_
  rcases alike with rfl | ⟨absent, absent'⟩
  · split
    · exact hu _
    · exact hl _ _
    · exact .done (.inl rfl)
  · have both : Described a a' := .inr ⟨absent, absent'⟩
    -- Neither spelling is a failure that can be repaired.
    cases absent <;> cases absent' <;> exact .done both

theorem similar_attempts (h : Program.Similar Described attempt attempt)
    {unauthorized : Nat → String → Task (ProviderResult (Option α))}
    (hu : ∀ left text,
      Program.Similar Described (unauthorized left text) (unauthorized left text)) (left : Nat) :
    Program.Similar Described (attempts policy attempt unauthorized left)
      (attempts policy attempt unauthorized left) := by
  induction left with
  | zero => exact similar_react h (hu 0) fun _ _ => .done (.inl rfl)
  | succ left ih =>
    refine similar_react h (hu (left + 1)) fun _ retryAfter => ?_
    have paused : (pause policy (policy.maxAttempts - 2 - left) retryAfter).Blind := by
      unfold pause pauseFor
      split
      · exact Task.blind_request fun _ _ => id
      · exact .ask fun impossible => nomatch impossible
    exact Program.Similar.bind paused fun _ _ _ => ih

theorem similar_call (h : Program.Similar Described attempt attempt) :
    Program.Similar Described (call policy attempt) (call policy attempt) := by
  refine similar_attempts h (fun left _ => ?_) _
  have refreshed : (Task.provider .refreshCredentials).Blind := Task.blind_request fun _ _ => id
  refine Program.Similar.bind refreshed fun answer answer' same => ?_
  cases same
  cases answer with
  | error e => exact .done (.inl rfl)
  | ok _ => exact similar_attempts h (fun _ _ => .done (.inl rfl)) left

theorem absentIfNotFound_of_absent {answer : ProviderResult (Option α)} (h : Absent answer) :
    absentIfNotFound answer = .ok none := by
  cases h <;> rfl

/-- **After a description the two spellings are one.** -/
theorem blind_describe (h : Program.Similar Described attempt attempt) :
    (describe policy attempt).Blind := by
  refine (similar_call h).bind fun a a' alike => .done ?_
  rcases alike with rfl | ⟨absent, absent'⟩
  · rfl
  · rw [absentIfNotFound_of_absent absent, absentIfNotFound_of_absent absent']

end Retry

namespace Waiter

variable {σ : Type} [IsState σ] [DecidableEq σ] (w : Waiter)

theorem blind_poll (kind : ResourceKind) (id : String) (targets : List σ) {fetch : Verb σ}
    (h : fetch.Blind) (started : Duration) (left : Nat) :
    (w.poll kind id targets fetch started left).Blind := by
  have plain {verb : Verb Unit} (h : verb.Calls fun _ => False) : verb.Blind :=
    h.blind fun _ => False.elim
  induction left with
  | zero => exact Verb.Calls.blind (Verb.calls_lift Task.calls_abort) fun _ => False.elim
  | succ left ih =>
    refine (plain (w.calls_checkpoint ..)).bind fun _ => h.bind fun state => ?_
    dsimp only
    split
    · exact Verb.blind_throw_bind _ _
    · split
      · exact Verb.blind_pure _
      · exact (plain (Verb.calls_lift (Task.calls_sleep _))).bind fun _ => ih

/-- A wait is blind if what it polls is. -/
theorem blind_wait (kind : ResourceKind) (id : String) (targets : List σ) {fetch : Verb σ}
    (h : fetch.Blind) : (w.wait kind id targets fetch).Blind :=
  (Verb.Calls.blind (Verb.calls_lift Task.calls_clock) fun _ => False.elim).bind fun _ =>
    w.blind_poll kind id targets h _ _

end Waiter

end CloudLifecycle

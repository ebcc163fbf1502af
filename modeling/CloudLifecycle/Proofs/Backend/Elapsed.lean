import CloudLifecycle.Lifecycle.Networking
import CloudLifecycle.Proofs.Backend.Budgets
import CloudLifecycle.Proofs.Store.Stage

/-!
# How long waits last

In surroundings where only pauses take time (`Manager.Timeline`) a wait has two clocks: it looks at
one between its fetches, and within a fetch the pauses after a rate limit pass unseen.
`Surroundings.Meets` states what holds of the result of a task, of the state that it leaves and of
the number of its describe calls; along a task these numbers add up.

A fetch pauses no longer than its policy allows (`Manager.Timeline.meets_call`), and a wait goes
beyond its time by no more than one interval and one fetch (`Manager.Timeline.meets_wait`).  So all
waits of a manager come to an end within the same bounds (`Manager.Timeline.waits_endInTime`).
-/

set_option autoImplicit false

namespace CloudLifecycle

/-- The action is a call that describes a resource. -/
def Action.isDescribe : Action → Bool
  | .provider call =>
    match call with
    | .describeVm _ | .describeVolume _ | .describeSnapshot _ | .describeImage _
    | .describeFloatingIp _ => true
    | _ => false
  | _ => false

/-- The number of describe calls. -/
def Trace.describes (trace : Trace) : Nat := trace.countP fun e => e.question.isDescribe

theorem Trace.describes_append (before after : Trace) :
    (before ++ after).describes = before.describes + after.describes := List.countP_append

theorem Trace.describes_singleton_le (e : Program.Event Action Action.Answer) :
    Trace.describes [e] ≤ 1 := List.countP_le_length

namespace Surroundings

variable {ω α β : Type} {s : Surroundings Action Action.Answer ω} {state middle : ω}

/-- The task comes to a result that, with the state that it leaves and the number of its describe
calls, satisfies the condition. -/
def Meets (s : Surroundings Action Action.Answer ω) (task : Task α) (state : ω)
    (post : α → ω → Nat → Prop) : Prop :=
  ∃ trace a final, s.Leads task state trace (.done a) final ∧ post a final (Trace.describes trace)

namespace Meets

variable {task : Task α} {f : α → Task β} {post : α → ω → Nat → Prop} {goal : β → ω → Nat → Prop}

theorem done {a : α} (h : post a state 0) : s.Meets (.done a) state post :=
  ⟨[], a, state, .refl _ _, h⟩

theorem imp {weaker : α → ω → Nat → Prop} (h : s.Meets task state post)
    (implied : ∀ a final n, post a final n → weaker a final n) : s.Meets task state weaker := by
  obtain ⟨trace, a, final, leads, holds⟩ := h
  exact ⟨trace, a, final, leads, implied _ _ _ holds⟩

/-- What a stretch of a run leads to goes on with its describe calls. -/
theorem after {rest : Task α} {trace : Trace} (leads : s.Leads task state trace rest middle)
    (h : s.Meets rest middle fun a final n => post a final (trace.describes + n)) :
    s.Meets task state post := by
  obtain ⟨more, a, final, last, holds⟩ := h
  refine ⟨trace ++ more, a, final, leads.trans last, ?_⟩
  rwa [Trace.describes_append]

/-- The describe calls of two tasks add up. -/
theorem bind (h : s.Meets task state fun a middle n =>
    s.Meets (f a) middle fun b final k => goal b final (n + k)) :
    s.Meets (task >>= f) state goal := by
  obtain ⟨before, a, middle, first, holds⟩ := h
  exact after first.bind holds

theorem bindVerb {verb : Verb α} {f : α → Verb β} {goal : Except CpiError β → ω → Nat → Prop}
    (h : s.Meets verb.run state fun result middle n =>
      match result with
      | .ok a => s.Meets (f a).run middle fun b final k => goal b final (n + k)
      | .error e => goal (.error e) middle n) :
    s.Meets (verb >>= f).run state goal := by
  obtain ⟨before, result, middle, first, holds⟩ := h
  cases result with
  | error e => exact ⟨before, _, middle, Verb.leads_bind_error first, holds⟩
  | ok a => exact after (Verb.leads_bind first) holds

end Meets

end Surroundings

/-- Surroundings of a manager in which only pauses take time.  Calls to the backend are answered in
any way, and the flag may be set at any time.  A pause lasts for its span; with a timer that is
coarser it may last longer, but then the interval and the longest delay are whole ticks of it. -/
structure Manager.Timeline (m : Manager) (ω : Type) extends
    Surroundings Action Action.Answer ω where
  now : ω → Duration
  /-- How long a pause lasts. -/
  lasts : Duration → Duration
  answers_provider (c : ProviderCall) (state : ω) :
    ∃ reply later, answer (.provider c) state = (some reply, later) ∧ now later = now state
  answers_sleep (span : Duration) (state : ω) :
    ∃ later, answer (.sleep span) state = (some (), later) ∧ now later = now state + lasts span
  answers_clock (state : ω) :
    ∃ later, answer .clock state = (some (now state), later) ∧ now later = now state
  answers_cancelled (state : ω) :
    ∃ set later, answer .cancelled state = (some set, later) ∧ now later = now state
  lasts_interval : lasts m.options.waiter.interval = m.options.waiter.interval
  lasts_le {span : Duration} (short : span ≤ m.options.retry.maxDelay) :
    lasts span ≤ m.options.retry.maxDelay

namespace Manager.Timeline

open Surroundings

variable {m : Manager} {ω α : Type} (t : m.Timeline ω)

/-- From this state on, no more than so many nanoseconds and describe calls. -/
structure Takes (start : ω) (nanos calls : Nat) (_ : α) (final : ω) (n : Nat) : Prop where
  forward : (t.now start).nanos ≤ (t.now final).nanos
  spent : (t.now final).nanos ≤ (t.now start).nanos + nanos
  few : n ≤ calls

/-! ## Calls with their repetitions -/

theorem meets_provider (c : ProviderCall) (state : ω) :
    t.Meets (Task.provider c) state (t.Takes state 0 1) := by
  obtain ⟨reply, later, answered, now⟩ := t.answers_provider c state
  exact ⟨_, reply, later, .ask answered, by rw [now], by rw [now]; simp,
    Trace.describes_singleton_le _⟩

theorem meets_refresh (state : ω) :
    t.Meets (Task.provider .refreshCredentials) state (t.Takes state 0 0) := by
  obtain ⟨reply, later, answered, now⟩ := t.answers_provider .refreshCredentials state
  exact ⟨_, reply, later, .ask answered, by rw [now], by rw [now]; simp, Nat.le_refl _⟩

theorem meets_sleep (span : Duration) (state : ω) :
    t.Meets (Task.sleep span) state fun _ final n =>
      t.now final = t.now state + t.lasts span ∧ n = 0 := by
  obtain ⟨later, answered, now⟩ := t.answers_sleep span state
  exact ⟨_, (), later, .ask answered, now, rfl⟩

variable {delays : Nat → Duration}

/-- A pause that the policy tolerates is no longer than it allows. -/
theorem meets_pause (paces : m.options.retry.Paces delays) {j : Nat}
    (tolerated : j + 1 < m.options.retry.maxAttempts) (retryAfter : Option Duration) (state : ω) :
    t.Meets (Retry.pause m.options.retry j retryAfter) state
      (t.Takes state m.options.retry.maxDelay.nanos 0) := by
  rw [Retry.pauseFor_eq paces tolerated]
  refine (t.meets_sleep _ state).imp fun _ final n => ?_
  rintro ⟨now, rfl⟩
  have short : t.lasts (Retry.pauseSpan m.options.retry delays j retryAfter) ≤
      m.options.retry.maxDelay := t.lasts_le (Nat.min_le_right _ _)
  rw [Duration.le_iff] at short
  refine ⟨?_, ?_, Nat.le_refl _⟩
  · rw [now]
    exact Nat.le_add_right _ _
  · rw [now]
    exact Nat.add_le_add_left short _

section Call

variable {attempt : Task (ProviderResult α)}

theorem meets_react {unauthorized : String → Task (ProviderResult α)}
    {limited : String → Option Duration → Task (ProviderResult α)} {nanos calls : Nat}
    (single : ∀ state, t.Meets attempt state (t.Takes state 0 1))
    (hu : ∀ text state, t.Meets (unauthorized text) state (t.Takes state nanos calls))
    (hl : ∀ text retryAfter state,
      t.Meets (limited text retryAfter) state (t.Takes state nanos calls)) (state : ω) :
    t.Meets (Retry.react attempt unauthorized limited) state
      (t.Takes state nanos (calls + 1)) := by
  refine Meets.bind ((single state).imp fun answer middle n => ?_)
  rintro ⟨forward, now, once⟩
  have more {task : Task (ProviderResult α)}
      (h : t.Meets task middle (t.Takes middle nanos calls)) :
      t.Meets task middle fun b final k => t.Takes state nanos (calls + 1) b final (n + k) := by
    refine h.imp fun _ final k => ?_
    rintro ⟨onward, later, few⟩
    exact ⟨by omega, by omega, by omega⟩
  split
  · exact more (hu _ _)
  · exact more (hl _ _ _)
  · exact .done ⟨by omega, by omega, by omega⟩

/-- One pause less than attempts, and what is done about a refusal as unauthorized. -/
theorem meets_attempts (paces : m.options.retry.Paces delays)
    (single : ∀ state, t.Meets attempt state (t.Takes state 0 1))
    {unauthorized : Nat → String → Task (ProviderResult α)} (extra : Nat)
    (hu : ∀ left < max 1 m.options.retry.maxAttempts, ∀ text state,
      t.Meets (unauthorized left text) state
        (t.Takes state (left * m.options.retry.maxDelay.nanos) (left + extra)))
    {left : Nat} (hleft : left < max 1 m.options.retry.maxAttempts) (state : ω) :
    t.Meets (Retry.attempts m.options.retry attempt unauthorized left) state
      (t.Takes state (left * m.options.retry.maxDelay.nanos) (left + extra + 1)) := by
  induction left generalizing state with
  | zero =>
    refine t.meets_react single (hu 0 hleft) (fun _ _ state => .done ⟨?_, ?_, ?_⟩) state
    · exact Nat.le_refl _
    · exact Nat.le_add_right _ _
    · exact Nat.zero_le _
  | succ left ih =>
    refine t.meets_react single (hu (left + 1) hleft) (fun _ retryAfter state => ?_) state
    refine Meets.bind ((t.meets_pause paces (by omega) retryAfter state).imp
      fun _ middle n => ?_)
    rintro ⟨forward, now, none⟩
    refine (ih (by omega) middle).imp fun _ final k => ?_
    rintro ⟨onward, later, few⟩
    refine ⟨by omega, ?_, by omega⟩
    rw [Nat.succ_mul]
    omega

/-- The longest time, in nanoseconds, that a call pauses in all. -/
def callPause (m : Manager) : Nat :=
  (max 1 m.options.retry.maxAttempts - 1) * m.options.retry.maxDelay.nanos

/-- The most attempts of a call: one more than may be rate limited, after a refresh. -/
def callAttempts (m : Manager) : Nat := max 1 m.options.retry.maxAttempts + 1

/-- **A call with its repetitions** keeps to the budgets of its policy, whatever it is answered. -/
theorem meets_call (paces : m.options.retry.Paces delays)
    (single : ∀ state, t.Meets attempt state (t.Takes state 0 1)) (state : ω) :
    t.Meets (Retry.call m.options.retry attempt) state
      (t.Takes state (callPause m) (callAttempts m)) := by
  have again {left : Nat} (hleft : left < max 1 m.options.retry.maxAttempts) (state : ω) :
      t.Meets (Retry.attemptsAgain m.options.retry attempt left) state
        (t.Takes state (left * m.options.retry.maxDelay.nanos) (left + 0 + 1)) := by
    unfold Retry.attemptsAgain
    refine t.meets_attempts paces single 0 (fun left _ _ state => .done ⟨?_, ?_, ?_⟩) hleft state
    · exact Nat.le_refl _
    · exact Nat.le_add_right _ _
    · exact Nat.zero_le _
  have last : m.options.retry.maxAttempts - 1 = max 1 m.options.retry.maxAttempts - 1 := by omega
  unfold Retry.call callPause callAttempts
  rw [last]
  refine (t.meets_attempts paces single 1 (fun left hleft text state => ?_) (by omega) state).imp
    fun _ final n => ?_
  · refine Meets.bind ((t.meets_refresh state).imp fun answer middle n => ?_)
    rintro ⟨forward, now, none⟩
    cases answer with
    | ok _ =>
      refine (again hleft middle).imp fun _ final k => ?_
      rintro ⟨onward, later, few⟩
      exact ⟨by omega, by omega, by omega⟩
    | error e => exact .done ⟨by omega, by omega, by omega⟩
  · rintro ⟨forward, now, few⟩
    exact ⟨forward, now, by omega⟩

end Call

/-! ## Fetches -/

/-- What is made of the result takes no time. -/
theorem meets_map {β : Type} {task : Task α} {state : ω} {nanos calls : Nat}
    (h : t.Meets task state (t.Takes state nanos calls)) (g : α → β) :
    t.Meets (task >>= fun a => pure (g a)) state (t.Takes state nanos calls) :=
  Meets.bind (h.imp fun _ _ _ ⟨forward, spent, few⟩ => .done ⟨forward, spent, few⟩)

theorem meets_mapVerb {β : Type} {verb : Verb α} {state : ω} {nanos calls : Nat}
    (h : t.Meets verb.run state (t.Takes state nanos calls)) (g : α → β) :
    t.Meets (verb >>= fun a => pure (g a)).run state (t.Takes state nanos calls) :=
  Meets.bindVerb (h.imp fun result _ _ ⟨forward, spent, few⟩ => by
    cases result with
    | ok _ => exact .done ⟨forward, spent, few⟩
    | error _ => exact ⟨forward, spent, few⟩)

/-- The verb takes no more than one call with its repetitions. -/
def Fetches (verb : Verb α) : Prop :=
  ∀ state, t.Meets verb.run state (t.Takes state (callPause m) (callAttempts m))

theorem fetches_call (paces : m.options.retry.Paces delays) (c : ProviderCall) :
    t.Fetches (m.call c) := fun state =>
  t.meets_map (t.meets_call paces (t.meets_provider c) state) _

/-- A state is read off one description. -/
theorem fetches_described {σ : Type} (paces : m.options.retry.Paces delays)
    {attempt : Task (ProviderResult (Option α))}
    (single : ∀ state, t.Meets attempt state (t.Takes state 0 1)) (read : Option α → σ) :
    t.Fetches (do
      let found ← (ExceptT.mk do
        return (← Retry.describe m.options.retry attempt).mapError .provider : Verb (Option α))
      return read found) := fun state =>
  t.meets_mapVerb (t.meets_map (t.meets_map (t.meets_call paces single state) _) _) _

theorem fetches_vmState (paces : m.options.retry.Paces delays) (id : ResourceId) :
    t.Fetches (m.vmState id) :=
  t.fetches_described paces (t.meets_provider (.describeVm id)) _

theorem fetches_volumeState (paces : m.options.retry.Paces delays) (id : ResourceId) :
    t.Fetches (m.volumeState id) :=
  t.fetches_described paces (t.meets_provider (.describeVolume id)) _

theorem fetches_snapshotState (paces : m.options.retry.Paces delays) (id : ResourceId) :
    t.Fetches (m.snapshotState id) :=
  t.fetches_described paces (t.meets_provider (.describeSnapshot id)) _

/-! ## Waits -/

/-- The flag and the clock are looked at in no time, and nothing follows after the deadline. -/
theorem meets_checkpoint (kind : ResourceKind) (id : String) (expected : List String)
    (started : Duration) (state : ω) :
    t.Meets (m.options.waiter.checkpoint kind id expected started).run state
      fun result final n => t.now final = t.now state ∧ n = 0 ∧
        (result = .ok () →
          (t.now state).nanos ≤ started.nanos + m.options.waiter.timeout.nanos) := by
  obtain ⟨set, middle, asked, now⟩ := t.answers_cancelled state
  obtain ⟨final, timed, later⟩ := t.answers_clock middle
  cases set with
  | true =>
    exact ⟨_, _, middle, Verb.leads_ask_bind asked, now, rfl, nofun⟩
  | false =>
    by_cases late : m.options.waiter.timeout < t.now middle - started
    · refine ⟨_, .error (.timeout kind id expected), final, (Verb.leads_ask_bind asked).trans
        ((Verb.leads_ask_bind timed).trans (?_ : t.Leads _ _ [] _ _)), later.trans now, rfl, nofun⟩
      rw [if_pos late]
      exact .refl _ _
    · refine ⟨_, .ok (), final, (Verb.leads_ask_bind asked).trans
        ((Verb.leads_ask_bind timed).trans (?_ : t.Leads _ _ [] _ _)), later.trans now, rfl,
        fun _ => ?_⟩
      · rw [if_neg late]
        exact .refl _ _
      · rw [Duration.lt_iff, Duration.sub_nanos, now] at late
        omega

/-- The time after which a wait has ended, in nanoseconds. -/
def waitSpan (m : Manager) : Nat :=
  m.options.waiter.timeout.nanos + m.options.waiter.interval.nanos + callPause m

section Wait

variable {σ : Type} [IsState σ] [DecidableEq σ] {fetch : Verb σ}

/-- A look that is not too late fetches once and is followed by the next look, of which so many fit
into the time. -/
theorem meets_poll (fetches : t.Fetches fetch)
    (positive : Duration.zero < m.options.waiter.interval) (kind : ResourceKind) (id : String)
    (targets : List σ) (started : Duration) {looks left : Nat}
    (budget : looks + left = m.options.waiter.timeout.nanos / m.options.waiter.interval.nanos + 2)
    (room : looks ≤ m.options.waiter.timeout.nanos / m.options.waiter.interval.nanos + 1)
    (state : ω)
    (due : started.nanos + looks * m.options.waiter.interval.nanos ≤ (t.now state).nanos)
    (limit : (t.now state).nanos ≤ started.nanos + waitSpan m) :
    t.Meets (m.options.waiter.poll kind id targets fetch started left).run state
      fun _ final n => (t.now final).nanos ≤ started.nanos + waitSpan m ∧
        n ≤ (left - 1) * callAttempts m := by
  induction left generalizing looks state with
  | zero => omega
  | succ left ih =>
    refine Meets.bindVerb ((t.meets_checkpoint kind id _ started state).imp
      fun result middle n => ?_)
    rintro ⟨now, rfl, early⟩
    cases result with
    | error e => exact ⟨now ▸ limit, Nat.zero_le _⟩
    | ok _ =>
    have early := early rfl
    have fits : looks ≤ m.options.waiter.timeout.nanos / m.options.waiter.interval.nanos := by
      rw [Nat.le_div_iff_mul_le positive]
      omega
    obtain ⟨left, rfl⟩ : ∃ more, left = more + 1 := ⟨left - 1, by omega⟩
    refine Meets.bindVerb ((fetches middle).imp fun result later n => ?_)
    rintro ⟨forward, spent, few⟩
    rw [now] at forward spent
    have soon : (t.now later).nanos ≤ started.nanos + waitSpan m := by
      unfold waitSpan
      omega
    have within : 0 + n ≤ (left + 1) * callAttempts m := by
      rw [Nat.succ_mul]
      omega
    cases result with
    | error e => exact ⟨soon, within⟩
    | ok found =>
    dsimp only
    split
    · exact .done ⟨soon, within⟩
    split
    · exact .done ⟨soon, within⟩
    obtain ⟨next, answered, paused⟩ := t.answers_sleep m.options.waiter.interval later
    rw [t.lasts_interval] at paused
    have due : started.nanos + (looks + 1) * m.options.waiter.interval.nanos ≤
        (t.now next).nanos := by
      rw [paused, Duration.add_nanos, Nat.succ_mul]
      omega
    have limit : (t.now next).nanos ≤ started.nanos + waitSpan m := by
      rw [paused, Duration.add_nanos, waitSpan]
      omega
    refine Meets.after (Verb.leads_ask_bind answered) ?_
    refine (ih (by omega) (by omega) next due limit).imp fun _ final k => ?_
    rintro ⟨ended, more⟩
    refine ⟨ended, ?_⟩
    have pausing : Trace.describes [⟨.sleep m.options.waiter.interval, ()⟩] = 0 := rfl
    rw [Nat.add_sub_cancel] at more ⊢
    rw [pausing, Nat.succ_mul]
    omega

/-- **A wait** goes beyond its time by no more than an interval and the pauses of one fetch. -/
theorem meets_wait (fetches : t.Fetches fetch)
    (positive : Duration.zero < m.options.waiter.interval) (kind : ResourceKind) (id : String)
    (targets : List σ) (start : ω) :
    t.Meets (m.options.waiter.wait kind id targets fetch).run start
      fun _ final n => (t.now final).nanos ≤ (t.now start).nanos + waitSpan m ∧
        n ≤ (m.options.waiter.timeout.nanos / m.options.waiter.interval.nanos + 1) *
          callAttempts m := by
  obtain ⟨middle, timed, now⟩ := t.answers_clock start
  have pausing : m.options.waiter.interval.nanos ≠ 0 := Nat.ne_of_gt positive
  have looking : Trace.describes [⟨.clock, t.now start⟩] = 0 := rfl
  refine Meets.after (Verb.leads_ask_bind timed) ?_
  rw [looking, Waiter.budget, if_neg pausing]
  have polled := t.meets_poll fetches positive kind id targets (t.now start)
    (Nat.zero_add _) (Nat.zero_le _) middle (by rw [now]; simp)
    (by rw [now]; exact Nat.le_add_right _ _)
  refine polled.imp fun _ final n ends => ?_
  rwa [Nat.zero_add]

end Wait

/-- The verb comes to a result, within the time and the describe calls of one wait. -/
def EndsInTime (verb : Verb α) (start : ω) : Prop :=
  ∃ result final, t.run verb.run start = (some result, final) ∧
    (t.now final).nanos ≤ (t.now start).nanos + waitSpan m ∧
    Trace.describes (t.events verb.run start) ≤
      (m.options.waiter.timeout.nanos / m.options.waiter.interval.nanos + 1) * callAttempts m

theorem endsInTime_discard {σ : Type} [IsState σ] [DecidableEq σ] {fetch : Verb σ}
    (fetches : t.Fetches fetch) (positive : Duration.zero < m.options.waiter.interval)
    (kind : ResourceKind) (id : String) (targets : List σ) (start : ω) :
    t.EndsInTime (discard (m.options.waiter.wait kind id targets fetch)) start := by
  obtain ⟨trace, result, final, leads, now, few⟩ :=
    t.meets_wait fetches positive kind id targets start
  have discarded : t.Leads (discard (m.options.waiter.wait kind id targets fetch)).run start trace
      (.done (result.map fun _ => ())) final := by
    cases result with
    | ok _ => exact leads.bind
    | error _ => exact leads.bind
  refine ⟨_, final, discarded.run, now, ?_⟩
  rwa [discarded.events, Surroundings.events, List.append_nil]

/-- **Waits end in time.**  However the backend answers, every wait of a manager ends within its
time, one interval and the pauses of one fetch, and makes no more describe calls than fetches fit
into the time.  A static binding ends before its wait or leads to it. -/
theorem waits_endInTime (positive : Duration.zero < m.options.waiter.interval)
    (paces : m.options.retry.Paces delays) (start : ω) :
    (∀ id targets, t.EndsInTime (m.waitVm id targets) start) ∧
    (∀ id targets, t.EndsInTime (m.waitVolume id targets) start) ∧
    (∀ id targets, t.EndsInTime (m.waitSnapshot id targets) start) ∧
    ∀ routerId ip vm,
      (∃ e final, t.run (m.bindStaticAddress routerId ip vm).run start = (some (.error e), final)) ∨
      ∃ before middle, t.Leads (m.bindStaticAddress routerId ip vm).run start before
          (m.waitVm vm.id [.running]).run middle ∧
        t.EndsInTime (m.waitVm vm.id [.running]) middle := by
  have vm (start : ω) (id : ResourceId) (targets : List VmState) :
      t.EndsInTime (m.waitVm id targets) start :=
    t.endsInTime_discard (t.fetches_vmState paces id) positive _ _ _ _
  refine ⟨vm start, fun id targets => ?_, fun id targets => ?_, fun routerId ip server => ?_⟩
  · exact t.endsInTime_discard (t.fetches_volumeState paces id) positive _ _ _ _
  · exact t.endsInTime_discard (t.fetches_snapshotState paces id) positive _ _ _ _
  · obtain ⟨_, bound, middle, first, _⟩ :=
      t.fetches_call paces (.bindStaticAddress routerId server.id ip) start
    cases bound with
    | error e => exact .inl ⟨e, middle, (Verb.leads_bind_error first).run⟩
    | ok _ =>
    have called : t.Leads (m.bindStaticAddress routerId ip server).run start _
      (m.call (.restartInstance server.id) >>= fun _ => m.waitVm server.id [.running]).run middle :=
      Verb.leads_bind first
    obtain ⟨_, restarted, last, second, _⟩ :=
      t.fetches_call paces (.restartInstance server.id) middle
    cases restarted with
    | error e => exact .inl ⟨e, last, (called.trans (Verb.leads_bind_error second)).run⟩
    | ok _ => exact .inr ⟨_, last, called.trans (Verb.leads_bind second), vm last _ _⟩

/-- A backend that limits the rate of all calls and asks for pauses of forty seconds. -/
def limited (m : Manager) : m.Timeline Duration where
  answer
    | .provider _, now =>
      (some (.error (.rateLimited "busy" (some (Duration.ofSeconds 40)))), now)
    | .sleep span, now => (some (), now + span)
    | .clock, now => (some now, now)
    | .cancelled, now => (some false, now)
    | _, now => (none, now)
  now now := now
  lasts span := span
  answers_provider _ _ := ⟨_, _, rfl, rfl⟩
  answers_sleep _ _ := ⟨_, rfl, rfl⟩
  answers_clock _ := ⟨_, rfl, rfl⟩
  answers_cancelled _ := ⟨_, _, rfl, rfl⟩
  lasts_interval := rfl
  lasts_le short := short

/-- With ten seconds to wait and two pauses of thirty seconds, a wait ends within 71 seconds. -/
theorem waits_endInTime_limited :
    Duration.zero < Manager.small.options.waiter.interval ∧
    Manager.small.options.retry.Paces (fun j => Duration.ofSeconds (2 ^ j)) ∧
    (limited .small).EndsInTime (Manager.small.waitVm ⟨"i-1"⟩ [.running]) Duration.zero ∧
    (limited .small).EndsInTime (Manager.small.waitVolume ⟨"d-1"⟩ [.available]) Duration.zero ∧
    waitSpan .small = 71 * Duration.perSecond := by
  have paces : Manager.small.options.retry.Paces (fun j => Duration.ofSeconds (2 ^ j)) :=
    RetryPolicy.paces_standard
  have positive : Duration.zero < Manager.small.options.waiter.interval := by decide
  obtain ⟨vm, volume, -, -⟩ := waits_endInTime (limited .small) positive paces Duration.zero
  exact ⟨positive, paces, vm _ _, volume _ _, by decide⟩

end Manager.Timeline

end CloudLifecycle

import CloudLifecycle.Lifecycle.Wait
import CloudLifecycle.Proofs.Runs.Playing
import Mathlib.Data.Nat.Find
import Mathlib.Logic.Function.Iterate

/-!
# When a wait ends

A wait looks again and again, and each look finds a verdict or goes on.  In this order: the flag is
set; the time is over; the fetch fails; its state is one of failure; its state is a target.
`Waiter.Watch` holds what a wait relies on in its surroundings, `Watch.look` numbers its looks,
`Watch.time` says when they are, and `Watch.Verdict` is what they find.

One look without a verdict leads to the next one (`Watch.leads_turn`), and one with a verdict to the
end (`Watch.leads_verdict`).  So a wait ends at the first look with a verdict and nowhere else, and
with a pause between the looks there is one (`Watch.wait_ends`).
-/

set_option autoImplicit false

namespace CloudLifecycle

namespace Waiter

/-- Surroundings of a wait.  Clock and flag are answered truthfully and at once.  A fetch comes to
an outcome; it may take time, and it may change everything else.  A pause lasts for the interval, or
for longer where a timer is that coarse. -/
structure Watch (w : Waiter) {σ : Type} (fetch : Verb σ) (ω : Type) extends
    Surroundings Action Action.Answer ω where
  now : ω → Duration
  flag : ω → Bool
  /-- How a fetch from this state ends, and the state that it leaves. -/
  outcome : ω → Except CpiError σ
  fetched : ω → ω
  /-- The state after a pause, and how long it lasts. -/
  paused : ω → ω
  pause : Duration
  answer_clock (state : ω) : answer .clock state = (some (now state), state)
  answer_cancelled (state : ω) : answer .cancelled state = (some (flag state), state)
  answer_sleep (state : ω) : answer (.sleep w.interval) state = (some (), paused state)
  run_fetch (state : ω) :
    toSurroundings.run fetch.run state = (some (outcome state), fetched state)
  now_fetched (state : ω) : now state ≤ now (fetched state)
  now_paused (state : ω) : now (paused state) = now state + pause
  interval_le : w.interval ≤ pause

namespace Watch

variable {σ ω : Type} {w : Waiter} {fetch : Verb σ} (watch : w.Watch fetch ω) (start : ω)

/-! ## Looks -/

/-- A fetch and a pause. -/
def turn (state : ω) : ω := watch.paused (watch.fetched state)

/-- The state at a look, the first one being look 0. -/
def look (i : Nat) : ω := watch.turn^[i] start

theorem look_succ (i : Nat) : watch.look start (i + 1) = watch.turn (watch.look start i) :=
  Function.iterate_succ_apply' watch.turn i start

/-- The time at a look: the wait starts at zero, and a pause follows the end of each fetch. -/
def time : Nat → Duration
  | 0 => Duration.zero
  | i + 1 => watch.now (watch.fetched (watch.look start i)) - watch.now start + watch.pause

theorem now_look_le (i : Nat) : watch.now start ≤ watch.now (watch.look start i) := by
  induction i with
  | zero => exact Nat.le_refl _
  | succ i ih =>
    rw [look_succ, turn, now_paused]
    have fetched := watch.now_fetched (watch.look start i)
    rw [Duration.le_iff] at ih fetched ⊢
    rw [Duration.add_nanos]
    omega

/-- The time at a look is what has passed since the start. -/
theorem now_look_sub (i : Nat) :
    watch.now (watch.look start i) - watch.now start = watch.time start i := by
  apply congrArg Duration.mk
  cases i with
  | zero => exact Nat.sub_self _
  | succ i =>
    rw [look_succ, turn, now_paused]
    have started := watch.now_look_le start i
    have fetched := watch.now_fetched (watch.look start i)
    rw [Duration.le_iff] at started fetched
    rw [Duration.add_nanos]
    show _ = _ - _ + _
    omega

/-- There is an interval between any look and the next. -/
theorem le_time (i : Nat) : i * w.interval.nanos ≤ (watch.time start i).nanos := by
  induction i with
  | zero => simp
  | succ i ih =>
    rw [← now_look_sub] at ih
    have fetched := watch.now_fetched (watch.look start i)
    have interval := watch.interval_le
    rw [Duration.le_iff] at fetched interval
    rw [Duration.sub_nanos] at ih
    rw [time, Duration.add_nanos, Duration.sub_nanos, Nat.succ_mul]
    omega

/-- The look goes on to a fetch. -/
structure Fetches (i : Nat) : Prop where
  unset : watch.flag (watch.look start i) = false
  early : ¬w.timeout < watch.time start i

variable {start watch} in
/-- A fetch is made only as long as its number fits the time. -/
theorem Fetches.le_div {i : Nat} (h : watch.Fetches start i)
    (positive : Duration.zero < w.interval) : i ≤ w.timeout.nanos / w.interval.nanos := by
  have early : (watch.time start i).nanos ≤ w.timeout.nanos := Nat.le_of_not_lt h.early
  exact (Nat.le_div_iff_mul_le positive).2 (Nat.le_trans (watch.le_time start i) early)

/-! ## Verdicts -/

variable [IsState σ] (kind : ResourceKind) (id : String) (targets : List σ)

/-- What a look finds if it ends the wait. -/
inductive Verdict (i : Nat) : Except CpiError σ → Prop where
  | cancelled (set : watch.flag (watch.look start i) = true) : Verdict i (.error .cancelled)
  | late (unset : watch.flag (watch.look start i) = false)
      (late : w.timeout < watch.time start i) :
      Verdict i (.error (.timeout kind id (targets.map IsState.text)))
  | failed (fetches : watch.Fetches start i) {e : CpiError}
      (h : watch.outcome (watch.look start i) = .error e) : Verdict i (.error e)
  | terminal (fetches : watch.Fetches start i) {state : σ}
      (h : watch.outcome (watch.look start i) = .ok state)
      (failure : IsState.isFailure state = true) :
      Verdict i (.error (.terminalState kind id (IsState.text state) (targets.map IsState.text)))
  | reached (fetches : watch.Fetches start i) {state : σ}
      (h : watch.outcome (watch.look start i) = .ok state)
      (healthy : IsState.isFailure state = false) (target : state ∈ targets) :
      Verdict i (.ok state)

/-- The look finds a state that is neither one of failure nor a target. -/
structure GoesOn (i : Nat) : Prop where
  fetches : watch.Fetches start i
  state : ∃ state, watch.outcome (watch.look start i) = .ok state ∧
    IsState.isFailure state = false ∧ state ∉ targets

theorem verdict_or_goesOn (i : Nat) :
    (∃ result, watch.Verdict start kind id targets i result) ∨ watch.GoesOn start targets i := by
  cases flag : watch.flag (watch.look start i) with
  | true => exact .inl ⟨_, .cancelled flag⟩
  | false =>
    by_cases late : w.timeout < watch.time start i
    · exact .inl ⟨_, .late flag late⟩
    have fetches : watch.Fetches start i := ⟨flag, late⟩
    cases outcome : watch.outcome (watch.look start i) with
    | error e => exact .inl ⟨_, .failed fetches outcome⟩
    | ok state =>
      cases failure : IsState.isFailure state with
      | true => exact .inl ⟨_, .terminal fetches outcome failure⟩
      | false =>
        by_cases target : state ∈ targets
        · exact .inl ⟨_, .reached fetches outcome failure target⟩
        · exact .inr ⟨fetches, state, outcome, failure, target⟩

variable {start watch targets} in
theorem GoesOn.not_verdict {i : Nat} (h : watch.GoesOn start targets i)
    (result : Except CpiError σ) : ¬watch.Verdict start kind id targets i result := by
  obtain ⟨⟨unset, early⟩, state, outcome, healthy, other⟩ := h
  intro verdict
  cases verdict with
  | cancelled set => cases unset.symm.trans set
  | late _ late => exact early late
  | failed _ failed => cases outcome.symm.trans failed
  | terminal _ seen failure =>
    obtain rfl := Except.ok.inj (outcome.symm.trans seen)
    cases healthy.symm.trans failure
  | reached _ seen _ target =>
    obtain rfl := Except.ok.inj (outcome.symm.trans seen)
    exact other target

/-- With a pause between its looks, a wait finds a verdict. -/
theorem exists_verdict (positive : Duration.zero < w.interval) :
    ∃ n result, watch.Verdict start kind id targets n result := by
  by_contra unended
  have goesOn : watch.GoesOn start targets (w.timeout.nanos / w.interval.nanos + 1) :=
    (watch.verdict_or_goesOn start kind id targets _).resolve_left fun h => unended ⟨_, h⟩
  have late := goesOn.fetches.le_div positive
  omega

/-- The wait ends at this look: it is the first one with a verdict. -/
structure EndsAt (n : Nat) (result : Except CpiError σ) : Prop where
  verdict : watch.Verdict start kind id targets n result
  first : ∀ i < n, ∀ other, ¬watch.Verdict start kind id targets i other

variable {kind id targets start watch} in
/-- Looks without a verdict go on. -/
theorem goesOn_of_unended {n : Nat}
    (h : ∀ i < n, ∀ other, ¬watch.Verdict start kind id targets i other) :
    ∀ i < n, watch.GoesOn start targets i := by
  intro i hi
  refine (watch.verdict_or_goesOn start kind id targets i).resolve_left ?_
  rintro ⟨result, verdict⟩
  exact h i hi result verdict

/-! ## The events of a wait -/

/-- A look at the flag and at the clock. -/
def glance (i : Nat) : Trace :=
  [⟨.cancelled, false⟩, ⟨.clock, watch.now (watch.look start i)⟩]

/-- The events of a fetch. -/
def polled (i : Nat) : Trace := watch.events fetch.run (watch.look start i)

/-- The events of a look that goes on. -/
def round (i : Nat) : Trace :=
  watch.glance start i ++ watch.polled start i ++ [⟨.sleep w.interval, ()⟩]

/-- The events of a look that ends the wait. -/
def last (i : Nat) : Trace :=
  if watch.flag (watch.look start i) then [⟨.cancelled, true⟩]
  else if w.timeout < watch.time start i then watch.glance start i
  else watch.glance start i ++ watch.polled start i

/-- The number of fetches of a wait that ends at a look. -/
def fetchCount (n : Nat) : Nat :=
  if watch.flag (watch.look start n) ∨ w.timeout < watch.time start n then n else n + 1

variable {kind id targets} {watch start} {i n : Nat} {result : Except CpiError σ}

/-- Of looks with verdicts one is the first. -/
theorem exists_endsAt (h : watch.Verdict start kind id targets n result) :
    ∃ first ≤ n, ∃ result, watch.EndsAt start kind id targets first result := by
  classical
  have found : ∃ n result, watch.Verdict start kind id targets n result := ⟨n, result, h⟩
  obtain ⟨earliest, verdict⟩ := Nat.find_spec found
  refine ⟨Nat.find found, Nat.find_min' found ⟨result, h⟩, earliest, verdict, ?_⟩
  intro i hi other earlier
  exact Nat.find_min found hi ⟨other, earlier⟩

/-! ## How many fetches there are -/

theorem EndsAt.le_div (h : watch.EndsAt start kind id targets n result)
    (positive : Duration.zero < w.interval) : n ≤ w.timeout.nanos / w.interval.nanos + 1 := by
  cases n with
  | zero => exact Nat.zero_le _
  | succ n =>
    have before := goesOn_of_unended h.first n (Nat.lt_succ_self n)
    exact Nat.succ_le_succ (before.fetches.le_div positive)

theorem EndsAt.fetchCount_le (h : watch.EndsAt start kind id targets n result)
    (positive : Duration.zero < w.interval) :
    watch.fetchCount start n ≤ w.timeout.nanos / w.interval.nanos + 1 := by
  unfold fetchCount
  split
  · exact h.le_div positive
  · rename_i fetching
    obtain ⟨unset, early⟩ := not_or.1 fetching
    have fetches : watch.Fetches start n := ⟨Bool.eq_false_iff.2 unset, early⟩
    exact Nat.succ_le_succ (fetches.le_div positive)

/-- The looks that a wait may take are enough. -/
theorem EndsAt.lt_budget_iff (h : watch.EndsAt start kind id targets n result) :
    n < w.budget ↔ (w.interval = Duration.zero → n < w.patience) := by
  unfold budget
  by_cases zero : w.interval.nanos = 0
  · have same : w.interval = Duration.zero := congrArg Duration.mk zero
    rw [if_pos zero]
    exact ⟨fun enough _ => enough, fun enough => enough same⟩
  · have bounded := h.le_div (Nat.pos_of_ne_zero zero)
    rw [if_neg zero]
    constructor
    · intro _ same
      exact absurd (congrArg Duration.nanos same) zero
    · intro _
      omega

/-! ## Steps of the loop -/

section Checkpoint

variable {σ ω : Type} {w : Waiter} {fetch : Verb σ} {watch : w.Watch fetch ω} {start : ω}
  {i : Nat} (kind : ResourceKind) (id : String)

theorem leads_set (set : watch.flag (watch.look start i) = true) (expected : List String) :
    watch.Leads (w.checkpoint kind id expected (watch.now start)).run (watch.look start i)
      [⟨.cancelled, true⟩] (.done (.error .cancelled)) (watch.look start i) := by
  have asked := watch.answer_cancelled (watch.look start i)
  rw [set] at asked
  exact Verb.leads_ask_bind asked

theorem leads_unset (unset : watch.flag (watch.look start i) = false) (expected : List String) :
    watch.Leads (w.checkpoint kind id expected (watch.now start)).run (watch.look start i)
      (watch.glance start i)
      (.done (if w.timeout < watch.time start i then .error (.timeout kind id expected)
        else .ok ())) (watch.look start i) := by
  have asked := watch.answer_cancelled (watch.look start i)
  rw [unset] at asked
  refine (Verb.leads_ask_bind asked).trans ?_
  refine (Verb.leads_ask_bind (watch.answer_clock _)).trans ?_
  rw [now_look_sub]
  split
  · exact .refl _ _
  · exact .refl _ _

/-- A look that goes on to a fetch leads to what comes after the checkpoint. -/
theorem leads_open (fetches : watch.Fetches start i) (expected : List String) (next : Verb σ) :
    watch.Leads (w.checkpoint kind id expected (watch.now start) >>= fun _ => next).run
      (watch.look start i) (watch.glance start i) next.run (watch.look start i) := by
  have looked := leads_unset kind id fetches.unset expected
  rw [if_neg fetches.early] at looked
  exact Verb.leads_bind looked

/-- A fetch that succeeds leads to what is done with its state. -/
theorem leads_fetch (fetches : watch.Fetches start i) {state : σ}
    (h : watch.outcome (watch.look start i) = .ok state) (expected : List String)
    (f : σ → Verb σ) :
    watch.Leads (w.checkpoint kind id expected (watch.now start) >>= fun _ => fetch >>= f).run
      (watch.look start i) (watch.glance start i ++ watch.polled start i) (f state).run
      (watch.fetched (watch.look start i)) := by
  have polled := Surroundings.Leads.of_run (watch.run_fetch (watch.look start i))
  rw [h] at polled
  exact (leads_open kind id fetches expected _).trans (Verb.leads_bind polled)

/-- A fetch that fails leads to its failure. -/
theorem leads_fetch_error (fetches : watch.Fetches start i) {e : CpiError}
    (h : watch.outcome (watch.look start i) = .error e) (expected : List String)
    (f : σ → Verb σ) :
    watch.Leads (w.checkpoint kind id expected (watch.now start) >>= fun _ => fetch >>= f).run
      (watch.look start i) (watch.glance start i ++ watch.polled start i) (.done (.error e))
      (watch.fetched (watch.look start i)) := by
  have polled := Surroundings.Leads.of_run (watch.run_fetch (watch.look start i))
  rw [h] at polled
  exact (leads_open kind id fetches expected _).trans (Verb.leads_bind_error polled)

end Checkpoint

variable [DecidableEq σ]

/-- **A look that goes on leads to the next one.** -/
theorem leads_turn (kind : ResourceKind) (id : String) (h : watch.GoesOn start targets i)
    (left : Nat) :
    watch.Leads (w.poll kind id targets fetch (watch.now start) (left + 1)).run
      (watch.look start i) (watch.round start i)
      (w.poll kind id targets fetch (watch.now start) left).run (watch.look start (i + 1)) := by
  obtain ⟨state, outcome, healthy, other⟩ := h.state
  refine (leads_fetch kind id h.fetches outcome _ _).trans ?_
  rw [if_neg (Bool.eq_false_iff.1 healthy), look_succ]
  have others : targets.contains state = false := by simpa using other
  rw [if_neg (Bool.eq_false_iff.1 others)]
  exact Verb.leads_ask_bind (watch.answer_sleep _)

/-- A look that finds a target leads to it. -/
theorem leads_reached (kind : ResourceKind) (id : String) (fetches : watch.Fetches start i)
    {state : σ} (h : watch.outcome (watch.look start i) = .ok state)
    (healthy : IsState.isFailure state = false) (target : state ∈ targets) (left : Nat) :
    watch.Leads (w.poll kind id targets fetch (watch.now start) (left + 1)).run
      (watch.look start i) (watch.glance start i ++ watch.polled start i) (.done (.ok state))
      (watch.fetched (watch.look start i)) := by
  rw [← List.append_nil (watch.glance start i ++ _)]
  refine (leads_fetch kind id fetches h _ _).trans ?_
  rw [if_neg (Bool.eq_false_iff.1 healthy), if_pos (List.contains_iff_mem.2 target)]
  exact .refl _ _

/-- **A look with a verdict leads to the end.** -/
theorem leads_verdict (h : watch.Verdict start kind id targets i result) (left : Nat) :
    ∃ final, watch.Leads (w.poll kind id targets fetch (watch.now start) (left + 1)).run
      (watch.look start i) (watch.last start i) (.done result) final := by
  unfold last
  cases h with
  | cancelled set =>
    rw [if_pos set]
    exact ⟨_, Verb.leads_bind_error (leads_set kind id set _)⟩
  | late unset late =>
    have looked := leads_unset kind id unset (targets.map IsState.text)
    rw [if_pos late] at looked
    rw [if_neg (Bool.eq_false_iff.1 unset), if_pos late]
    exact ⟨_, Verb.leads_bind_error looked⟩
  | failed fetches outcome =>
    rw [if_neg (Bool.eq_false_iff.1 fetches.unset), if_neg fetches.early]
    exact ⟨_, leads_fetch_error kind id fetches outcome _ _⟩
  | terminal fetches outcome failure =>
    rw [if_neg (Bool.eq_false_iff.1 fetches.unset), if_neg fetches.early]
    rw [← List.append_nil (watch.glance start i ++ _)]
    refine ⟨watch.fetched (watch.look start i), (leads_fetch kind id fetches outcome _ _).trans ?_⟩
    rw [if_pos failure]
    exact .refl _ _
  | reached fetches outcome healthy target =>
    rw [if_neg (Bool.eq_false_iff.1 fetches.unset), if_neg fetches.early]
    exact ⟨_, leads_reached kind id fetches outcome healthy target left⟩

/-! ## The whole loop -/

/-- Looks that go on lead from the first of them to the one after the last. -/
theorem leads_turns (kind : ResourceKind) (id : String) {count : Nat}
    (h : ∀ i < count, watch.GoesOn start targets i) (left : Nat) :
    watch.Leads (w.poll kind id targets fetch (watch.now start) (left + count)).run start
      ((List.range count).flatMap (watch.round start))
      (w.poll kind id targets fetch (watch.now start) left).run (watch.look start count) := by
  induction count generalizing left with
  | zero => exact .refl _ _
  | succ count ih =>
    have before := ih (fun i hi => h i (Nat.lt_succ_of_lt hi)) (left + 1)
    have turn := leads_turn kind id (h count (Nat.lt_succ_self count)) left
    rw [List.range_succ, List.flatMap_append, List.flatMap_singleton,
      show left + (count + 1) = left + 1 + count by omega]
    exact before.trans turn

/-- A wait that may look often enough goes on to the look after those that go on. -/
theorem leads_looks (kind : ResourceKind) (id : String)
    (h : ∀ i < n, watch.GoesOn start targets i) (enough : n < w.budget) :
    ∃ left, watch.Leads (w.wait kind id targets fetch).run start
      (⟨.clock, watch.now start⟩ :: (List.range n).flatMap (watch.round start))
      (w.poll kind id targets fetch (watch.now start) (left + 1)).run (watch.look start n) := by
  obtain ⟨left, hleft⟩ := Nat.exists_eq_add_of_lt enough
  have turns := leads_turns kind id h (left + 1)
  rw [show left + 1 + n = w.budget by omega] at turns
  exact ⟨left, (Verb.leads_ask_bind (watch.answer_clock start)).trans turns⟩

/-- A wait that may look often enough runs up to its first verdict. -/
theorem EndsAt.leads (h : watch.EndsAt start kind id targets n result)
    (enough : n < w.budget) :
    ∃ final, watch.Leads (w.wait kind id targets fetch).run start
      (⟨.clock, watch.now start⟩ :: ((List.range n).flatMap (watch.round start) ++
        watch.last start n)) (.done result) final := by
  obtain ⟨left, looked⟩ := leads_looks kind id (goesOn_of_unended h.first) enough
  obtain ⟨final, last⟩ := leads_verdict h.verdict left
  exact ⟨final, looked.trans last⟩

/-- A wait without a verdict in as many looks as it may take comes to no result. -/
theorem run_wait_unended
    (h : ∀ i < w.budget, ∀ other, ¬watch.Verdict start kind id targets i other) :
    (watch.run (w.wait kind id targets fetch).run start).1 = none := by
  have turns := leads_turns kind id (goesOn_of_unended h) 0
  rw [Nat.zero_add] at turns
  have looked : watch.Leads (w.wait kind id targets fetch).run start _ _ _ :=
    (Verb.leads_ask_bind (watch.answer_clock start)).trans turns
  exact (congrArg Prod.fst looked.run).trans (Verb.run_abort _)

/-- A wait comes to the verdict of the look that ends it, and to nothing else. -/
theorem run_wait_iff :
    (watch.run (w.wait kind id targets fetch).run start).1 = some result ↔
      ∃ n, watch.EndsAt start kind id targets n result ∧
        (w.interval = Duration.zero → n < w.patience) := by
  constructor
  · intro given
    by_cases ends : ∃ i < w.budget, ∃ other, watch.Verdict start kind id targets i other
    · obtain ⟨i, hi, other, verdict⟩ := ends
      obtain ⟨n, hn, found, endsAt⟩ := exists_endsAt verdict
      have enough : n < w.budget := Nat.lt_of_le_of_lt hn hi
      obtain ⟨final, leads⟩ := endsAt.leads enough
      have same : some found = some result := (congrArg Prod.fst leads.run).symm.trans given
      obtain rfl := Option.some.inj same
      exact ⟨n, endsAt, endsAt.lt_budget_iff.1 enough⟩
    · have unended : ∀ i < w.budget, ∀ other, ¬watch.Verdict start kind id targets i other :=
        fun i hi other verdict => ends ⟨i, hi, other, verdict⟩
      cases (run_wait_unended unended).symm.trans given
  · rintro ⟨n, endsAt, enough⟩
    obtain ⟨final, leads⟩ := endsAt.leads (endsAt.lt_budget_iff.2 enough)
    exact congrArg Prod.fst leads.run

/-- **When a wait ends.**  A wait ends at the first look with a verdict, which is its result.  Each
look before fetches once and then pauses once, and the last one does not pause.  Without an interval
this holds of a wait that is patient enough.  With one the wait ends in any case, and there is at
most one fetch more than intervals fit into the time. -/
theorem wait_ends (watch : w.Watch fetch ω) (start : ω) (kind : ResourceKind) (id : String)
    (targets : List σ) :
    (∀ result, (watch.run (w.wait kind id targets fetch).run start).1 = some result ↔
      ∃ n, watch.EndsAt start kind id targets n result ∧
        (w.interval = Duration.zero → n < w.patience)) ∧
    (∀ n result, watch.EndsAt start kind id targets n result →
      (w.interval = Duration.zero → n < w.patience) →
      watch.events (w.wait kind id targets fetch).run start =
        ⟨.clock, watch.now start⟩ :: ((List.range n).flatMap (watch.round start) ++
          watch.last start n)) ∧
    (Duration.zero < w.interval → ∃ n result, watch.EndsAt start kind id targets n result ∧
      (watch.run (w.wait kind id targets fetch).run start).1 = some result ∧
      watch.fetchCount start n ≤ w.timeout.nanos / w.interval.nanos + 1) := by
  refine ⟨fun result => run_wait_iff, ?_, ?_⟩
  · intro n result endsAt enough
    obtain ⟨final, leads⟩ := endsAt.leads (endsAt.lt_budget_iff.2 enough)
    exact leads.events.trans (List.append_nil _)
  · intro positive
    obtain ⟨i, other, verdict⟩ := watch.exists_verdict start kind id targets positive
    obtain ⟨n, -, result, endsAt⟩ := exists_endsAt verdict
    have enough : w.interval = Duration.zero → n < w.patience := by
      intro zero
      rw [zero] at positive
      exact absurd positive (Nat.lt_irrefl 0)
    exact ⟨n, result, endsAt, run_wait_iff.2 ⟨n, endsAt, enough⟩, endsAt.fetchCount_le positive⟩

/-- A volume that is available after six seconds, where a fetch takes two. -/
def slowVolume : Verb VolumeState := do
  let now ← Task.clock
  ExceptT.lift (Task.sleep (Duration.ofSeconds 2))
  return if now < Duration.ofSeconds 6 then .creating else .available

/-- Polls every five seconds, for seven seconds. -/
def brief : Waiter := ⟨Duration.ofSeconds 5, Duration.ofSeconds 7, 0⟩

/-- Time passes by pauses only, and the flag is set after eight seconds. -/
def eightSeconds : brief.Watch slowVolume Duration where
  answer
    | .clock, now => (some now, now)
    | .cancelled, now => (some (decide (Duration.ofSeconds 8 ≤ now)), now)
    | .sleep span, now => (some (), now + span)
    | _, now => (none, now)
  now now := now
  flag now := decide (Duration.ofSeconds 8 ≤ now)
  outcome now := .ok (if now < Duration.ofSeconds 6 then .creating else .available)
  fetched now := now + Duration.ofSeconds 2
  paused now := now + Duration.ofSeconds 5
  pause := Duration.ofSeconds 5
  answer_clock _ := rfl
  answer_cancelled _ := rfl
  answer_sleep _ := rfl
  run_fetch _ := rfl
  now_fetched _ := Nat.le_add_right _ _
  now_paused _ := rfl
  interval_le := Nat.le_refl _

/-- The volume is seen at the last moment, by a fetch that goes beyond it and during which the flag
is set. -/
theorem wait_ends_eightSeconds :
    eightSeconds.EndsAt Duration.zero .volume "d-1" [.available] 1 (.ok .available) ∧
    (brief.interval = Duration.zero → 1 < brief.patience) ∧ Duration.zero < brief.interval ∧
    (eightSeconds.run (brief.wait .volume "d-1" [.available] slowVolume).run Duration.zero).1 =
      some (.ok .available) ∧
    eightSeconds.events (brief.wait .volume "d-1" [.available] slowVolume).run Duration.zero = [
      ⟨.clock, Duration.zero⟩,
      ⟨.cancelled, false⟩, ⟨.clock, Duration.zero⟩,
      ⟨.clock, Duration.zero⟩, ⟨.sleep (Duration.ofSeconds 2), ()⟩,
      ⟨.sleep (Duration.ofSeconds 5), ()⟩,
      ⟨.cancelled, false⟩, ⟨.clock, Duration.ofSeconds 7⟩,
      ⟨.clock, Duration.ofSeconds 7⟩, ⟨.sleep (Duration.ofSeconds 2), ()⟩] ∧
    ∃ n result, eightSeconds.EndsAt Duration.zero .volume "d-1" [.available] n result ∧
      eightSeconds.fetchCount Duration.zero n ≤ 2 := by
  have creating : eightSeconds.GoesOn Duration.zero [.available] 0 :=
    ⟨⟨rfl, by decide⟩, .creating, rfl, rfl, by decide⟩
  have ends : eightSeconds.EndsAt Duration.zero .volume "d-1" [.available] 1 (.ok .available) := by
    refine ⟨.reached ⟨rfl, by decide⟩ rfl rfl (by decide), fun i hi other => ?_⟩
    obtain rfl := Nat.lt_one_iff.1 hi
    exact creating.not_verdict .volume "d-1" other
  have pausing : brief.interval = Duration.zero → 1 < brief.patience := fun zero => by cases zero
  have positive : Duration.zero < brief.interval := by decide
  have laws := wait_ends eightSeconds Duration.zero .volume "d-1" [.available]
  refine ⟨ends, pausing, positive, (laws.1 _).2 ⟨1, ends, pausing⟩, ?_, ?_⟩
  · exact laws.2.1 1 _ ends pausing
  · obtain ⟨n, result, endsAt, -, count⟩ := laws.2.2 positive
    exact ⟨n, result, endsAt, count⟩

end Watch

end Waiter

end CloudLifecycle

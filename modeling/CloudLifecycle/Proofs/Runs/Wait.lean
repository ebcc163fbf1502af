import CloudLifecycle.Proofs.Runs.Observation

/-!
# The course of a wait

A wait looks at the flag and at the clock, fetches the state, and pauses before it looks again.
`Polls` is this course with its six ends and turns, and `Waiter.polls_of_runs` says that a wait
takes no other.  What a wait has fetched tells how it ends: a target ends it with success
(`Polls.fetched_of_mem`), and only a target does.
-/

set_option autoImplicit false

namespace CloudLifecycle

variable {σ : Type} [IsState σ]

/-- The events of a wait from some time on, and its result. -/
inductive Polls (w : Waiter) (kind : ResourceKind) (id : String) (targets : List σ)
    (fetch : Verb σ) (started : Duration) : Trace → Except CpiError σ → Prop where
  | cancelled : Polls w kind id targets fetch started [⟨.cancelled, true⟩] (.error .cancelled)
  | late {now : Duration} (h : w.timeout < now - started) :
      Polls w kind id targets fetch started [⟨.cancelled, false⟩, ⟨.clock, now⟩]
        (.error (.timeout kind id (targets.map IsState.text)))
  | failed {now : Duration} {polled : Trace} {e : CpiError} (h : ¬w.timeout < now - started)
      (fetched : fetch.Runs polled (.error e)) :
      Polls w kind id targets fetch started (⟨.cancelled, false⟩ :: ⟨.clock, now⟩ :: polled)
        (.error e)
  | terminal {now : Duration} {polled : Trace} {state : σ} (h : ¬w.timeout < now - started)
      (fetched : fetch.Runs polled (.ok state)) (failure : IsState.isFailure state = true) :
      Polls w kind id targets fetch started (⟨.cancelled, false⟩ :: ⟨.clock, now⟩ :: polled)
        (.error (.terminalState kind id (IsState.text state) (targets.map IsState.text)))
  | reached {now : Duration} {polled : Trace} {state : σ} (h : ¬w.timeout < now - started)
      (fetched : fetch.Runs polled (.ok state)) (healthy : IsState.isFailure state = false)
      (target : state ∈ targets) :
      Polls w kind id targets fetch started (⟨.cancelled, false⟩ :: ⟨.clock, now⟩ :: polled)
        (.ok state)
  | again {now : Duration} {polled rest : Trace} {state : σ} {result : Except CpiError σ}
      (h : ¬w.timeout < now - started) (fetched : fetch.Runs polled (.ok state))
      (healthy : IsState.isFailure state = false) (other : state ∉ targets)
      (later : Polls w kind id targets fetch started rest result) :
      Polls w kind id targets fetch started
        (⟨.cancelled, false⟩ :: ⟨.clock, now⟩ :: (polled ++ ⟨.sleep w.interval, ()⟩ :: rest)) result

namespace Waiter

variable [DecidableEq σ] {w : Waiter} {kind : ResourceKind} {id : String} {targets : List σ}
  {fetch : Verb σ} {started : Duration} {trace : Trace}

theorem runs_checkpoint {expected : List String} {result : Except CpiError Unit}
    (h : (w.checkpoint kind id expected started).Runs trace result) :
    (trace = [⟨.cancelled, true⟩] ∧ result = .error .cancelled) ∨
      ∃ now, trace = [⟨.cancelled, false⟩, ⟨.clock, now⟩] ∧
        result = if w.timeout < now - started then .error (.timeout kind id expected)
          else .ok () := by
  obtain ⟨flag, rest, rfl, hr⟩ := Verb.runs_ask_bind_iff.1 h
  cases flag with
  | true =>
    obtain ⟨rfl, rfl⟩ := Verb.runs_throw_bind_iff.1 hr
    exact .inl ⟨rfl, rfl⟩
  | false =>
    obtain ⟨now, rest, rfl, hn⟩ := Verb.runs_ask_bind_iff.1 hr
    split at hn
    · rename_i late
      obtain ⟨rfl, rfl⟩ := Verb.runs_throw_iff.1 hn
      exact .inr ⟨now, rfl, (if_pos late).symm⟩
    · rename_i early
      obtain ⟨rfl, rfl⟩ := Verb.runs_pure_iff.1 hn
      exact .inr ⟨now, rfl, (if_neg early).symm⟩

theorem polls_of_runs_poll {left : Nat} {result : Except CpiError σ}
    (h : (w.poll kind id targets fetch started left).Runs trace result) :
    Polls w kind id targets fetch started trace result := by
  induction left generalizing trace with
  | zero =>
    obtain ⟨_, aborted, _⟩ := Verb.runs_lift_iff.1 h
    cases aborted with | ask impossible _ => exact impossible.elim
  | succ left ih =>
    rcases Verb.runs_bind_iff.1 h with ⟨e, hc, rfl⟩ | ⟨looked, rest, _, rfl, hc, hr⟩
    · rcases runs_checkpoint hc with ⟨rfl, he⟩ | ⟨now, rfl, he⟩
      · obtain rfl := Except.error.inj he
        exact .cancelled
      · split at he
        · rename_i late
          obtain rfl := Except.error.inj he
          exact .late late
        · cases he
    rcases runs_checkpoint hc with ⟨_, he⟩ | ⟨now, rfl, he⟩
    · cases he
    split at he
    · cases he
    rename_i early
    rcases Verb.runs_bind_iff.1 hr with ⟨e, hf, rfl⟩ | ⟨polled, rest, state, rfl, hf, hr⟩
    · exact .failed early hf
    dsimp only at hr
    split at hr
    · rename_i failure
      obtain ⟨rfl, rfl⟩ := Verb.runs_throw_bind_iff.1 hr
      rw [List.append_nil]
      exact .terminal early hf failure
    rename_i healthy
    rw [Bool.not_eq_true] at healthy
    split at hr
    · rename_i target
      obtain ⟨rfl, rfl⟩ := Verb.runs_pure_iff.1 hr
      rw [List.append_nil]
      exact .reached early hf healthy (List.contains_iff_mem.1 target)
    · rename_i other
      obtain ⟨_, rest, rfl, hl⟩ := Verb.runs_ask_bind_iff.1 hr
      exact .again early hf healthy (fun target => other (List.contains_iff_mem.2 target)) (ih hl)

/-- **The course of a wait**: looks and pauses, up to an end. -/
theorem polls_of_runs {result : Except CpiError σ}
    (h : (w.wait kind id targets fetch).Runs trace result) :
    ∃ started rest, trace = ⟨.clock, started⟩ :: rest ∧
      Polls w kind id targets fetch started rest result := by
  obtain ⟨started, rest, rfl, hr⟩ := Verb.runs_ask_bind_iff.1 h
  exact ⟨started, rest, rfl, polls_of_runs_poll hr⟩

end Waiter

namespace Polls

variable {w : Waiter} {kind : ResourceKind} {id : String} {targets : List σ} {fetch : Verb σ}
  {started : Duration} {trace : Trace} {result : Except CpiError σ}

/-- A call that a wait has made was made to fetch the state, and a target that it fetched is its
result. -/
theorem fetched_of_mem (h : Polls w kind id targets fetch started trace result) {c : ProviderCall}
    {answer : ProviderResult c.Reply} (he : ⟨.provider c, answer⟩ ∈ trace) :
    ∃ polled fetched, fetch.Runs polled fetched ∧ ⟨.provider c, answer⟩ ∈ polled ∧
      ∀ state, fetched = .ok state → IsState.isFailure state = false → state ∈ targets →
        result = .ok state := by
  induction h with
  | cancelled | late _ => simp at he
  | failed _ fetched => exact ⟨_, _, fetched, by simpa using he, fun _ hf => nomatch hf⟩
  | terminal _ fetched failure =>
    refine ⟨_, _, fetched, by simpa using he, fun state hf healthy => ?_⟩
    obtain rfl := Except.ok.inj hf
    rw [failure] at healthy
    cases healthy
  | reached _ fetched _ _ => exact ⟨_, _, fetched, by simpa using he, fun _ hf _ _ => hf⟩
  | @again now polled rest state result _ fetched _ other _ ih =>
    have he : ⟨.provider c, answer⟩ ∈ polled ∨ ⟨.provider c, answer⟩ ∈ rest := by simpa using he
    rcases he with he | he
    · refine ⟨_, _, fetched, he, fun found hf _ target => ?_⟩
      obtain rfl := Except.ok.inj hf
      exact absurd target other
    · exact ih he

/-- A wait that succeeds has fetched its result at the end, and it is a target. -/
theorem fetched_of_ok {state : σ}
    (h : Polls w kind id targets fetch started trace (.ok state)) :
    state ∈ targets ∧
      ∃ before polled, trace = before ++ polled ∧ fetch.Runs polled (.ok state) := by
  generalize hresult : (.ok state : Except CpiError σ) = result at h
  induction h with
  | cancelled | late _ | failed _ _ | terminal _ _ _ => cases hresult
  | reached _ fetched _ target =>
    obtain rfl := Except.ok.inj hresult
    exact ⟨target, [_, _], _, rfl, fetched⟩
  | @again now polled rest state result _ _ _ _ _ ih =>
    obtain ⟨target, before, last, rfl, fetched⟩ := ih hresult
    refine ⟨target, ⟨.cancelled, false⟩ :: ⟨.clock, now⟩ ::
      (polled ++ ⟨.sleep w.interval, ()⟩ :: before), last, by simp, fetched⟩

end Polls

/-! ## Waiting for a VM -/

namespace Manager

variable {m : Manager} {id : ResourceId} {trace : Trace}

/-- A VM that was described is in the state that is fetched. -/
theorem runs_vmState_of_mem {result : Except CpiError VmState}
    (h : (m.vmState id).Runs trace result) {vm : VmInfo}
    (seen : ⟨.provider (.describeVm id), .ok (some vm)⟩ ∈ trace) : result = .ok vm.state := by
  obtain ⟨described, hd, rfl⟩ := Verb.runs_bind_pure_iff.1 h
  obtain ⟨outcome, hr, rfl⟩ := runs_describeVm hd
  obtain rfl := hr.eq_ok_of_mem (by simp) seen
  rfl

/-- A state that is fetched is that of a VM that was described, or there was none. -/
theorem mem_of_runs_vmState {state : VmState} (h : (m.vmState id).Runs trace (.ok state))
    (present : state ≠ .noExist) :
    ∃ vm, ⟨.provider (.describeVm id), .ok (some vm)⟩ ∈ trace ∧ vm.state = state := by
  obtain ⟨described, hd, hs⟩ := Verb.runs_bind_pure_iff.1 h
  cases described with
  | error e => cases hs
  | ok found =>
    obtain rfl := Except.ok.inj hs
    cases found with
    | none => exact absurd rfl present
    | some vm => exact ⟨vm, (firstReply_of_describeVm hd).mem, rfl⟩

/-- A wait that succeeds has seen the VM in one of the target states. -/
theorem mem_of_waitVm_ok {targets : List VmState} (present : .noExist ∉ targets)
    (h : (m.waitVm id targets).Runs trace (.ok ())) :
    ∃ vm, ⟨.provider (.describeVm id), .ok (some vm)⟩ ∈ trace ∧ vm.state ∈ targets := by
  obtain ⟨waited, hw, hr⟩ := Verb.runs_discard_iff.1 h
  cases waited with
  | error e => cases hr
  | ok state =>
    obtain ⟨started, rest, rfl, polls⟩ := Waiter.polls_of_runs hw
    obtain ⟨target, before, polled, rfl, fetched⟩ := polls.fetched_of_ok
    obtain ⟨vm, seen, rfl⟩ := mem_of_runs_vmState fetched fun absent => present (absent ▸ target)
    exact ⟨vm, List.mem_cons_of_mem _ (List.mem_append_right before seen), target⟩

/-- A wait that fails has not seen the VM in a target state. -/
theorem not_mem_of_waitVm_error {targets : List VmState} {e : CpiError}
    (h : (m.waitVm id targets).Runs trace (.error e)) {vm : VmInfo}
    (seen : ⟨.provider (.describeVm id), .ok (some vm)⟩ ∈ trace)
    (healthy : IsState.isFailure vm.state = false) : vm.state ∉ targets := by
  intro target
  obtain ⟨waited, hw, hr⟩ := Verb.runs_discard_iff.1 h
  obtain ⟨started, rest, rfl, polls⟩ := Waiter.polls_of_runs hw
  obtain ⟨polled, fetched, hf, hm, reached⟩ := polls.fetched_of_mem (by simpa using seen)
  obtain rfl := reached _ (runs_vmState_of_mem hf hm) healthy target
  cases hr

end Manager

end CloudLifecycle

import CloudLifecycle.Proofs.Runs.Wait

/-!
# What describe calls have reported

The answer that decides a call is its first one that asks for no repetition
(`Trace.FirstAnswer`).  What a describe call reports is the state in that answer; a resource that
was not found is reported absent (`reportedState`).  There is one way for a description to come to
a result without such an answer: the call was refused as unauthorized and the refresh of the
credentials failed (`Trace.Unrefreshed`).  If the refresh says that something was not found, this
reads as an absent resource too.

A wait ends with the report that it waited for (`Manager.reports_of_waitVm` and its siblings).
-/

set_option autoImplicit false

namespace CloudLifecycle

/-- The answer asks for no repetition of the call. -/
def Retry.Final {α : Type} : ProviderResult α → Prop
  | .error (.unauthorized _) | .error (.rateLimited _ _) => False
  | _ => True

namespace Trace

/-- The first final answer to the call. -/
inductive FirstAnswer (c : ProviderCall) (answer : ProviderResult c.Reply) : Trace → Prop where
  | here (rest : Trace) (final : Retry.Final answer) :
      FirstAnswer c answer (⟨.provider c, answer⟩ :: rest)
  | later {e : Program.Event Action Action.Answer} {rest : Trace}
      (skipped : ∀ other, e = ⟨.provider c, other⟩ → ¬Retry.Final other)
      (h : FirstAnswer c answer rest) : FirstAnswer c answer (e :: rest)

/-- The call was refused as unauthorized, and the refresh of the credentials failed. -/
def Unrefreshed (c : ProviderCall) (cause : ProviderError) (trace : Trace) : Prop :=
  ∃ before after text, trace = before ++ ⟨.provider c, .error (.unauthorized text)⟩ ::
    ⟨.provider .refreshCredentials, .error cause⟩ :: after

/-- The first final answer to the call is this outcome, or a refresh for it failed with it. -/
def Settles (c : ProviderCall) (outcome : ProviderResult c.Reply) (trace : Trace) : Prop :=
  FirstAnswer c outcome trace ∨ ∃ cause, outcome = .error cause ∧ Unrefreshed c cause trace

variable {c : ProviderCall} {answer : ProviderResult c.Reply} {cause : ProviderError}
  {trace : Trace}

theorem FirstAnswer.append (h : FirstAnswer c answer trace) (more : Trace) :
    FirstAnswer c answer (trace ++ more) := by
  induction h with
  | here rest final => exact .here _ final
  | later skipped _ ih => exact .later skipped ih

/-- Events that are no answers to the call may come before. -/
theorem FirstAnswer.after (h : FirstAnswer c answer trace) {before : Trace}
    (unasked : ∀ other, ⟨.provider c, other⟩ ∉ before) :
    FirstAnswer c answer (before ++ trace) := by
  induction before with
  | nil => exact h
  | cons e before ih =>
    refine .later (fun other same => ?_) (ih fun other made => ?_)
    · exact absurd List.mem_cons_self (same ▸ unasked other)
    · exact unasked other (List.mem_cons_of_mem e made)

theorem FirstAnswer.mem (h : FirstAnswer c answer trace) : ⟨.provider c, answer⟩ ∈ trace := by
  induction h with
  | here rest _ => exact List.mem_cons_self
  | later _ _ ih => exact List.mem_cons_of_mem _ ih

/-- Every success is final, so one that is the first final answer is the first success. -/
theorem FirstAnswer.firstReply {reply : c.Reply} (h : FirstAnswer c (.ok reply) trace) :
    FirstReply c reply trace := by
  induction h with
  | here rest _ => exact .here rest
  | later skipped _ ih => exact .later (fun other same => skipped _ same (by simp [Retry.Final])) ih

/-- There is one first final answer. -/
theorem FirstAnswer.unique (h : FirstAnswer c answer trace) {other : ProviderResult c.Reply}
    (ho : FirstAnswer c other trace) : other = answer := by
  induction h with
  | here rest final =>
    cases ho with
    | here _ _ => rfl
    | later skipped _ => exact absurd final (skipped answer rfl)
  | later skipped _ ih =>
    cases ho with
    | here _ final => exact absurd final (skipped other rfl)
    | later _ rest => exact ih rest

theorem Unrefreshed.within (h : Unrefreshed c cause trace) (before after : Trace) :
    Unrefreshed c cause (before ++ trace ++ after) := by
  obtain ⟨earlier, later, text, rfl⟩ := h
  exact ⟨before ++ earlier, later ++ after, text, by simp⟩

/-- Events that are no final answers to the call may come before. -/
theorem Settles.cons (h : Settles c answer trace) {e : Program.Event Action Action.Answer}
    (skipped : ∀ other, e = ⟨.provider c, other⟩ → ¬Retry.Final other) :
    Settles c answer (e :: trace) := by
  rcases h with answered | ⟨cause, rfl, unrefreshed⟩
  · exact .inl (.later skipped answered)
  · refine .inr ⟨cause, rfl, ?_⟩
    simpa using unrefreshed.within [e] []

end Trace

namespace Repeats

variable {policy : RetryPolicy} {c : ProviderCall} {refreshable : Bool} {limited : Nat}
  {trace : Trace} {outcome : ProviderResult c.Reply}

/-- A call with a final outcome got it as its first final answer, or from a refresh that failed. -/
theorem settles (hc : c ≠ .refreshCredentials)
    (h : Repeats policy c refreshable limited trace outcome) (final : Retry.Final outcome) :
    trace.Settles c outcome := by
  induction h with
  | answered outcome _ => exact .inl (.here [] final)
  | limited text retryAfter span _ _ _ ih =>
    refine ((ih final).cons fun other same => ?_).cons fun other same => ?_
    · cases same
    · cases same
      exact id
  | refreshed text _ ih =>
    refine ((ih final).cons fun other same => ?_).cons fun other same => ?_
    · exact absurd same (refresh_ne hc _ _)
    · cases same
      exact id
  | unrefreshed text cause => exact .inr ⟨cause, rfl, [], [], text, rfl⟩

/-- A call that succeeds got its reply as its first final answer. -/
theorem firstAnswer_ok {reply : c.Reply} (hc : c ≠ .refreshCredentials)
    (h : Repeats policy c refreshable limited trace outcome) (ho : outcome = .ok reply) :
    Trace.FirstAnswer c (.ok reply) trace := by
  subst ho
  rcases h.settles hc trivial with answered | ⟨cause, impossible, _⟩
  · exact answered
  · cases impossible

/-- A call that succeeds ends with its success. -/
theorem ends_ok {reply : c.Reply} (h : Repeats policy c refreshable limited trace outcome)
    (ho : outcome = .ok reply) : ∃ earlier, trace = earlier ++ [⟨.provider c, .ok reply⟩] := by
  induction h with
  | answered outcome _ =>
    subst ho
    exact ⟨[], rfl⟩
  | limited text retryAfter span _ _ _ ih =>
    obtain ⟨earlier, rfl⟩ := ih ho
    exact ⟨_ :: _ :: earlier, rfl⟩
  | refreshed text _ ih =>
    obtain ⟨earlier, rfl⟩ := ih ho
    exact ⟨_ :: _ :: earlier, rfl⟩
  | unrefreshed text cause => cases ho

end Repeats

/-- Rounds that succeed end with the success of the call. -/
theorem Retry.ends_ok_of_rounds {policy : RetryPolicy} {c : ProviderCall} {pauseSpan : Duration}
    {accepts : ProviderError → Bool} {left : Nat} {trace : Trace}
    {outcome : ProviderResult c.Reply} {reply : c.Reply}
    (h : Program.Runs (roundsLeft pauseSpan accepts (call policy (Task.provider c)) left) trace
      outcome) (ho : outcome = .ok reply) :
    ∃ earlier, trace = earlier ++ [⟨.provider c, .ok reply⟩] := by
  induction left generalizing trace with
  | zero => exact (repeats_of_runs h).ends_ok ho
  | succ left ih =>
    obtain ⟨round, after, first, rfl, hround, hrest⟩ := Program.runs_bind_iff.1 h
    cases first with
    | ok reply =>
      obtain ⟨rfl, rfl⟩ := Program.runs_done_iff.1 hrest
      rw [List.append_nil]
      exact (repeats_of_runs hround).ends_ok ho
    | error e =>
      dsimp only at hrest
      split at hrest
      · obtain ⟨paused, later, _, rfl, _, hlater⟩ := Program.runs_bind_iff.1 hrest
        obtain ⟨earlier, rfl⟩ := ih hlater
        exact ⟨round ++ (paused ++ earlier), by simp⟩
      · rw [ho] at hrest
        cases (Program.runs_done_iff.1 hrest).2

/-! ## States in answers -/

section States

variable {σ α : Type} [IsState σ]

/-- The state of a resource that was found, or of one that is absent. -/
def stateOf (state : α → σ) (found : Option α) : σ := (found.map state).getD IsState.absent

/-- The state that an answer to a describe call reports. -/
def reportedState (state : α → σ) : ProviderResult α → Option σ
  | .ok reply => some (state reply)
  | .error (.notFound _) => some IsState.absent
  | .error _ => none

/-- The event is an answer to the call that reports such a state. -/
def Reports (c : ProviderCall) (state : c.Reply → σ) (good : σ → Prop)
    (e : Program.Event Action Action.Answer) : Prop :=
  ∃ answer seen, e = ⟨.provider c, answer⟩ ∧ reportedState state answer = some seen ∧ good seen

/-- The first final answer to the call reports such a state. -/
def Trace.FirstReports (c : ProviderCall) (state : c.Reply → σ) (good : σ → Prop)
    (trace : Trace) : Prop :=
  ∃ answer seen, FirstAnswer c answer trace ∧ reportedState state answer = some seen ∧ good seen

/-- The call was refused as unauthorized, and the refresh of the credentials did not find
something.  This reads as if the call had not found the resource. -/
def Trace.Misread (c : ProviderCall) (trace : Trace) : Prop :=
  ∃ text, Unrefreshed c (.notFound text) trace

theorem Trace.Misread.within {c : ProviderCall} {trace : Trace} (h : Misread c trace)
    (before after : Trace) : Misread c (before ++ trace ++ after) := by
  obtain ⟨text, unrefreshed⟩ := h
  exact ⟨text, unrefreshed.within before after⟩

/-- What a description finds is what the outcome of its call reports. -/
theorem reportedState_of_found {outcome : ProviderResult (Option α)} {found : Option α}
    (h : (Retry.absentIfNotFound outcome).mapError CpiError.provider = .ok found) (state : α → σ) :
    reportedState (stateOf state) outcome = some (stateOf state found) := by
  have ended : Retry.absentIfNotFound outcome = .ok found := Verb.mapError_eq_ok_iff.1 h
  unfold Retry.absentIfNotFound at ended
  split at ended
  · obtain rfl := Except.ok.inj ended
    rfl
  · subst ended
    rfl

/-- A call whose outcome reports a state got this report from its first final answer, unless a
failed refresh was read as the report that there is nothing. -/
theorem Repeats.firstReports {policy : RetryPolicy} {c : ProviderCall} {refreshable : Bool}
    {limited : Nat} {trace : Trace} {outcome : ProviderResult c.Reply}
    (hc : c ≠ .refreshCredentials) (h : Repeats policy c refreshable limited trace outcome)
    {state : c.Reply → σ} {seen : σ} (told : reportedState state outcome = some seen)
    {good : σ → Prop} (hgood : good seen) :
    trace.FirstReports c state good ∨ good IsState.absent ∧ trace.Misread c := by
  have final : Retry.Final outcome := by
    cases outcome with
    | ok reply => trivial
    | error e => cases e <;> trivial
  rcases h.settles hc final with answered | ⟨cause, rfl, unrefreshed⟩
  · exact .inl ⟨outcome, seen, answered, told, hgood⟩
  · cases cause with
    | notFound text =>
      obtain rfl := Option.some.inj told
      exact .inr ⟨hgood, text, unrefreshed⟩
    | _ => cases told

theorem Reports.mono {c : ProviderCall} {state : c.Reply → σ} {good better : σ → Prop}
    (h : ∀ seen, good seen → better seen) {e : Program.Event Action Action.Answer}
    (reports : Reports c state good e) : Reports c state better e := by
  obtain ⟨answer, seen, rfl, told, hgood⟩ := reports
  exact ⟨answer, seen, rfl, told, h seen hgood⟩

theorem Trace.FirstReports.exists_mem {c : ProviderCall} {state : c.Reply → σ} {good : σ → Prop}
    {trace : Trace} (h : trace.FirstReports c state good) :
    ∃ e ∈ trace, Reports c state good e := by
  obtain ⟨answer, seen, first, told, hgood⟩ := h
  exact ⟨_, first.mem, answer, seen, rfl, told, hgood⟩

theorem Trace.FirstReports.append {c : ProviderCall} {state : c.Reply → σ} {good : σ → Prop}
    {trace : Trace} (h : trace.FirstReports c state good) (more : Trace) :
    (trace ++ more).FirstReports c state good := by
  obtain ⟨answer, seen, first, told, hgood⟩ := h
  exact ⟨answer, seen, first.append more, told, hgood⟩

/-- A wait that succeeds has ended with the report of a target. -/
theorem Waiter.reports_of_wait [DecidableEq σ] {w : Waiter} {kind : ResourceKind} {id : String}
    {targets : List σ} {policy : RetryPolicy} {c : ProviderCall} {state : c.Reply → σ}
    {describe : Verb c.Reply} (hc : c ≠ .refreshCredentials)
    (told : ∀ polled found, describe.Runs polled (.ok found) →
      ∃ outcome, Repeats policy c true 0 polled outcome ∧
        reportedState state outcome = some (state found))
    {trace : Trace}
    (h : (discard (w.wait kind id targets do return state (← describe))).Runs trace (.ok ())) :
    (∃ e ∈ trace, Reports c state (· ∈ targets) e) ∨
      IsState.absent ∈ targets ∧ trace.Misread c := by
  obtain ⟨waited, hw, hr⟩ := Verb.runs_discard_iff.1 h
  cases waited with
  | error e => cases hr
  | ok seen =>
    obtain ⟨started, rest, rfl, polls⟩ := Waiter.polls_of_runs hw
    obtain ⟨target, before, polled, rfl, fetched⟩ := polls.fetched_of_ok
    obtain ⟨described, hd, hs⟩ := Verb.runs_bind_pure_iff.1 fetched
    cases described with
    | error e => cases hs
    | ok found =>
      obtain rfl := Except.ok.inj hs
      obtain ⟨outcome, repeats, report⟩ := told polled found hd
      rcases repeats.firstReports hc report target with first | ⟨absent, misread⟩
      · obtain ⟨e, he, reports⟩ := first.exists_mem
        exact .inl ⟨e, by simp [he], reports⟩
      · refine .inr ⟨absent, ?_⟩
        simpa using misread.within (_ :: before) []

end States

namespace Manager

variable {m : Manager} {id : ResourceId} {trace : Trace}

/-! ## Describing -/

theorem runs_describeVolume {result : Except CpiError (Option VolumeInfo)}
    (h : (m.describeVolume id).Runs trace result) :
    ∃ outcome, Repeats m.options.retry (.describeVolume id) true 0 trace outcome ∧
      result = (Retry.absentIfNotFound outcome).mapError .provider := by
  obtain ⟨found, hd, rfl⟩ := Verb.runs_mapError_iff.1 h
  obtain ⟨outcome, hc, rfl⟩ := Retry.runs_describe hd
  exact ⟨outcome, Retry.repeats_of_runs hc, rfl⟩

theorem runs_describeSnapshot {result : Except CpiError (Option SnapshotInfo)}
    (h : (m.describeSnapshot id).Runs trace result) :
    ∃ outcome, Repeats m.options.retry (.describeSnapshot id) true 0 trace outcome ∧
      result = (Retry.absentIfNotFound outcome).mapError .provider := by
  obtain ⟨found, hd, rfl⟩ := Verb.runs_mapError_iff.1 h
  obtain ⟨outcome, hc, rfl⟩ := Retry.runs_describe hd
  exact ⟨outcome, Retry.repeats_of_runs hc, rfl⟩

/-- What a description finds is what the outcome of its call reports. -/
theorem reported_of_describeVm {found : Option VmInfo}
    (h : (m.describeVm id).Runs trace (.ok found)) :
    ∃ outcome, Repeats m.options.retry (.describeVm id) true 0 trace outcome ∧
      reportedState (stateOf VmInfo.state) outcome = some (stateOf VmInfo.state found) := by
  obtain ⟨outcome, repeats, ho⟩ := runs_describeVm h
  exact ⟨outcome, repeats, reportedState_of_found ho.symm VmInfo.state⟩

theorem reported_of_describeVolume {found : Option VolumeInfo}
    (h : (m.describeVolume id).Runs trace (.ok found)) :
    ∃ outcome, Repeats m.options.retry (.describeVolume id) true 0 trace outcome ∧
      reportedState (stateOf VolumeInfo.state) outcome = some (stateOf VolumeInfo.state found) := by
  obtain ⟨outcome, repeats, ho⟩ := runs_describeVolume h
  exact ⟨outcome, repeats, reportedState_of_found ho.symm VolumeInfo.state⟩

theorem reported_of_describeSnapshot {found : Option SnapshotInfo}
    (h : (m.describeSnapshot id).Runs trace (.ok found)) :
    ∃ outcome, Repeats m.options.retry (.describeSnapshot id) true 0 trace outcome ∧
      reportedState (stateOf SnapshotInfo.state) outcome =
        some (stateOf SnapshotInfo.state found) := by
  obtain ⟨outcome, repeats, ho⟩ := runs_describeSnapshot h
  exact ⟨outcome, repeats, reportedState_of_found ho.symm SnapshotInfo.state⟩

/-- A description that leads to such a state was answered so, or was misread as absence. -/
theorem firstReports_of_describeVm {found : Option VmInfo} {good : VmState → Prop}
    (h : (m.describeVm id).Runs trace (.ok found)) (hgood : good (stateOf VmInfo.state found)) :
    trace.FirstReports (.describeVm id) (stateOf VmInfo.state) good ∨
      good .noExist ∧ trace.Misread (.describeVm id) := by
  obtain ⟨outcome, repeats, told⟩ := reported_of_describeVm h
  exact repeats.firstReports (by simp) told hgood

theorem firstReports_of_describeVolume {found : Option VolumeInfo} {good : VolumeState → Prop}
    (h : (m.describeVolume id).Runs trace (.ok found))
    (hgood : good (stateOf VolumeInfo.state found)) :
    trace.FirstReports (.describeVolume id) (stateOf VolumeInfo.state) good ∨
      good .noExist ∧ trace.Misread (.describeVolume id) := by
  obtain ⟨outcome, repeats, told⟩ := reported_of_describeVolume h
  exact repeats.firstReports (by simp) told hgood

theorem firstReports_of_describeSnapshot {found : Option SnapshotInfo}
    {good : SnapshotState → Prop} (h : (m.describeSnapshot id).Runs trace (.ok found))
    (hgood : good (stateOf SnapshotInfo.state found)) :
    trace.FirstReports (.describeSnapshot id) (stateOf SnapshotInfo.state) good ∨
      good .noExist ∧ trace.Misread (.describeSnapshot id) := by
  obtain ⟨outcome, repeats, told⟩ := reported_of_describeSnapshot h
  exact repeats.firstReports (by simp) told hgood

/-- A volume that a description finds is that of its first final answer. -/
theorem firstAnswer_of_describeVolume {volume : VolumeInfo}
    (h : (m.describeVolume id).Runs trace (.ok (some volume))) :
    Trace.FirstAnswer (.describeVolume id) (.ok (some volume)) trace := by
  obtain ⟨outcome, repeats, ho⟩ := runs_describeVolume h
  exact repeats.firstAnswer_ok (by simp)
    (Retry.absentIfNotFound_eq_some_iff.1 (Verb.mapError_eq_ok_iff.1 ho.symm))

/-- What has to exist is what was seen, if that was not gone. -/
theorem required_of_mem {α : Type} {describe : Verb (Option α)} {demand : Option α → Verb α}
    {isGone : α → Bool} {missing : CpiError} {result : Except CpiError α}
    (h : (describe >>= demand).Runs trace result) (absent : demand none = throw missing)
    (found : ∀ a, demand (some a) = if isGone a then throw missing else pure a)
    {e : Program.Event Action Action.Answer} (seen : e ∈ trace) {a : α}
    (finds : ∀ {trace : Trace} {result : Except CpiError (Option α)},
      describe.Runs trace result → e ∈ trace → result = .ok (some a))
    (present : isGone a = false) : result = .ok a := by
  rcases Verb.runs_bind_iff.1 h with ⟨error, hd, rfl⟩ | ⟨before, after, seenFirst, rfl, hd, hf⟩
  · cases finds hd seen
  · -- Nothing is asked after the description.
    have ended : after = [] := by
      cases seenFirst with
      | none => exact (Verb.runs_throw_iff.1 (absent ▸ hf)).1
      | some other =>
        rw [found] at hf
        split at hf
        · exact (Verb.runs_throw_iff.1 hf).1
        · exact (Verb.runs_pure_iff.1 hf).1
    rw [ended, List.append_nil] at seen
    obtain rfl := Except.ok.inj (finds hd seen)
    rw [found, present] at hf
    exact (Verb.runs_pure_iff.1 hf).2

/-- A VM that was described, and not as gone, is the one that has to exist. -/
theorem requireVm_of_mem {vm : VmInfo} {result : Except CpiError VmInfo}
    (h : (m.requireVm id).Runs trace result)
    (seen : ⟨.provider (.describeVm id), .ok (some vm)⟩ ∈ trace)
    (present : vm.state.isGone = false) : result = .ok vm := by
  refine required_of_mem h rfl (fun _ => rfl) seen (fun hd seen => ?_) present
  obtain ⟨outcome, repeats, rfl⟩ := runs_describeVm hd
  obtain rfl := repeats.eq_ok_of_mem (by simp) seen
  rfl

/-- A volume that was described, and not as gone, is the one that has to exist. -/
theorem requireVolume_of_mem {volume : VolumeInfo} {result : Except CpiError VolumeInfo}
    (h : (m.requireVolume id).Runs trace result)
    (seen : ⟨.provider (.describeVolume id), .ok (some volume)⟩ ∈ trace)
    (present : volume.state.isGone = false) : result = .ok volume := by
  refine required_of_mem h rfl (fun _ => rfl) seen (fun hd seen => ?_) present
  obtain ⟨outcome, repeats, rfl⟩ := runs_describeVolume hd
  obtain rfl := repeats.eq_ok_of_mem (by simp) seen
  rfl

/-- A volume that has to exist is that of the first final answer, and not gone. -/
theorem firstAnswer_of_requireVolume {volume : VolumeInfo}
    (h : (m.requireVolume id).Runs trace (.ok volume)) :
    Trace.FirstAnswer (.describeVolume id) (.ok (some volume)) trace ∧
      volume.state.isGone = false := by
  obtain ⟨before, after, found, rfl, hd, hf⟩ := Verb.runs_bind_ok_iff.1 h
  cases found with
  | none => cases (Verb.runs_throw_iff.1 hf).2
  | some found =>
    dsimp only at hf
    split at hf
    · cases (Verb.runs_throw_iff.1 hf).2
    · rename_i present
      obtain ⟨rfl, hvolume⟩ := Verb.runs_pure_iff.1 hf
      obtain rfl : volume = found := Except.ok.inj hvolume
      exact ⟨(firstAnswer_of_describeVolume hd).append [], by simpa using present⟩

/-- The same for a volume that is looked up after the VM. -/
theorem firstAnswer_of_requireBoth {vmId : ResourceId} {before after : Trace} {vm : VmInfo}
    {volume : VolumeInfo} (hvm : (m.requireVm vmId).Runs before (.ok vm))
    (hvolume : (m.requireVolume id).Runs after (.ok volume)) (more : Trace) :
    Trace.FirstAnswer (.describeVolume id) (.ok (some volume)) (before ++ (after ++ more)) := by
  have described := (firstAnswer_of_requireVolume hvolume).1.append more
  have looked := (m.calls_requireVm vmId).callsIn hvm
  exact described.after fun other => looked.not_mem (by simp) (by simp) other

/-! ## Waiting -/

theorem reports_of_waitVm {targets : List VmState}
    (h : (m.waitVm id targets).Runs trace (.ok ())) :
    (∃ e ∈ trace, Reports (.describeVm id) (stateOf VmInfo.state) (· ∈ targets) e) ∨
      .noExist ∈ targets ∧ trace.Misread (.describeVm id) :=
  Waiter.reports_of_wait (by simp) (fun _ _ hd => reported_of_describeVm hd) h

theorem reports_of_waitVolume {targets : List VolumeState}
    (h : (m.waitVolume id targets).Runs trace (.ok ())) :
    (∃ e ∈ trace, Reports (.describeVolume id) (stateOf VolumeInfo.state) (· ∈ targets) e) ∨
      .noExist ∈ targets ∧ trace.Misread (.describeVolume id) :=
  Waiter.reports_of_wait (by simp) (fun _ _ hd => reported_of_describeVolume hd) h

theorem reports_of_waitSnapshot {targets : List SnapshotState}
    (h : (m.waitSnapshot id targets).Runs trace (.ok ())) :
    (∃ e ∈ trace, Reports (.describeSnapshot id) (stateOf SnapshotInfo.state) (· ∈ targets) e) ∨
      .noExist ∈ targets ∧ trace.Misread (.describeSnapshot id) :=
  Waiter.reports_of_wait (by simp) (fun _ _ hd => reported_of_describeSnapshot hd) h

/-! ## Calls that were accepted -/

/-- What comes after a call comes after its success. -/
theorem runs_call_bind_ok {α : Type} {c : ProviderCall} {f : c.Reply → Verb α} {a : α}
    (h : (m.call c >>= f).Runs trace (.ok a)) :
    ∃ earlier reply after, trace = earlier ++ ⟨.provider c, .ok reply⟩ :: after ∧
      (f reply).Runs after (.ok a) := by
  obtain ⟨called, after, reply, rfl, hc, hf⟩ := Verb.runs_bind_ok_iff.1 h
  obtain ⟨outcome, repeats, ho⟩ := runs_call hc
  obtain ⟨earlier, rfl⟩ := repeats.ends_ok (Verb.mapError_eq_ok_iff.1 ho.symm)
  exact ⟨earlier, reply, after, by simp, hf⟩

/-- What comes after a disk was asked to be attached comes after the success of this call. -/
theorem runs_requestAttach_bind_ok {α : Type} {vm disk : ResourceId} {f : Unit → Verb α} {a : α}
    (h : (m.requestAttach vm disk >>= f).Runs trace (.ok a)) :
    ∃ earlier after, trace = earlier ++ ⟨.provider (.attachVolume disk vm), .ok ()⟩ :: after ∧
      (f ()).Runs after (.ok a) := by
  obtain ⟨called, after, _, rfl, hc, hf⟩ := Verb.runs_bind_ok_iff.1 h
  obtain ⟨outcome, hr, ho⟩ := Verb.runs_mapError_iff.1 hc
  obtain ⟨earlier, rfl⟩ := Retry.ends_ok_of_rounds hr (Verb.mapError_eq_ok_iff.1 ho.symm)
  exact ⟨earlier, after, by simp, hf⟩

end Manager

end CloudLifecycle

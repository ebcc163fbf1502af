import CloudLifecycle.Proofs.Runs.Retry

/-!
# What a verb has observed

A verb knows of the backend what its calls were answered.  `Trace.FirstReply c reply trace` says
that `reply` is the first success that a call got; a call that succeeds gives the verb its first
reply, and so does a description that finds something.  An absent resource is one that was
described as absent or that was not found.
-/

set_option autoImplicit false

namespace CloudLifecycle

/-- A relation that goes along a trace, one event after another, goes along the parts of it. -/
theorem Trace.along_append_iff {σ : Type} {Along : σ → Trace → σ → Prop}
    {Step : σ → Program.Event Action Action.Answer → σ → Prop}
    (nil : ∀ {s later}, Along s [] later ↔ s = later)
    (cons : ∀ {s later e trace},
      Along s (e :: trace) later ↔ ∃ next, Step s e next ∧ Along next trace later)
    {s later : σ} {trace more : Trace} :
    Along s (trace ++ more) later ↔ ∃ middle, Along s trace middle ∧ Along middle more later := by
  induction trace generalizing s with
  | nil => simp only [List.nil_append, nil, exists_eq_left']
  | cons e trace ih =>
    simp only [List.cons_append, cons, ih]
    constructor
    · rintro ⟨next, step, middle, rest, behind⟩
      exact ⟨middle, ⟨next, step, rest⟩, behind⟩
    · rintro ⟨middle, ⟨next, step, rest⟩, behind⟩
      exact ⟨next, step, middle, rest, behind⟩

/-- The first success among the answers to a call is this reply. -/
inductive Trace.FirstReply (c : ProviderCall) (reply : c.Reply) : Trace → Prop where
  | here (rest : Trace) : FirstReply c reply (⟨.provider c, .ok reply⟩ :: rest)
  | later {e : Program.Event Action Action.Answer} {rest : Trace}
      (skipped : ∀ other, e ≠ ⟨.provider c, .ok other⟩) (h : FirstReply c reply rest) :
      FirstReply c reply (e :: rest)

namespace Trace.FirstReply

variable {c : ProviderCall} {reply : c.Reply} {trace : Trace}

theorem append (h : FirstReply c reply trace) (more : Trace) :
    FirstReply c reply (trace ++ more) := by
  induction h with
  | here rest => exact .here _
  | later skipped _ ih => exact .later skipped ih

/-- A reply that comes first is still the first one after events without a reply. -/
theorem prepend {before : Trace} (h : FirstReply c reply trace)
    (none : ∀ other, ⟨.provider c, .ok other⟩ ∉ before) : FirstReply c reply (before ++ trace) := by
  induction before with
  | nil => exact h
  | cons e before ih =>
    refine .later (fun other he => none other (he ▸ List.mem_cons_self)) (ih fun other hm => ?_)
    exact none other (List.mem_cons_of_mem e hm)

theorem mem (h : FirstReply c reply trace) : ⟨.provider c, .ok reply⟩ ∈ trace := by
  induction h with
  | here rest => exact List.mem_cons_self
  | later _ _ ih => exact List.mem_cons_of_mem _ ih

/-- There is one first reply. -/
theorem unique (h : FirstReply c reply trace) {other : c.Reply} (ho : FirstReply c other trace) :
    other = reply := by
  induction h with
  | here rest =>
    cases ho with
    | here _ => rfl
    | later skipped _ => exact absurd rfl (skipped reply)
  | later skipped _ ih =>
    cases ho with
    | here _ => exact absurd rfl (skipped other)
    | later _ rest => exact ih rest

end Trace.FirstReply

/-- A refresh of the credentials is no answer to another call. -/
theorem refresh_ne {c : ProviderCall} (hc : c ≠ .refreshCredentials) (answer : ProviderResult Unit)
    (other : ProviderResult c.Reply) :
    (⟨.provider .refreshCredentials, answer⟩ : Program.Event Action Action.Answer) ≠
      ⟨.provider c, other⟩ := by
  intro same
  exact hc (by simpa using (congrArg Program.Event.question same).symm)

namespace Repeats

variable {policy : RetryPolicy} {c : ProviderCall} {refreshable : Bool} {limited : Nat}
  {trace : Trace} {outcome : ProviderResult c.Reply} {reply : c.Reply}

/-- A call that succeeds was answered so at its end and never before. -/
theorem firstReply (hc : c ≠ .refreshCredentials)
    (h : Repeats policy c refreshable limited trace outcome) (ho : outcome = .ok reply) :
    Trace.FirstReply c reply trace := by
  induction h with
  | answered outcome _ =>
    subst ho
    exact .here []
  | limited text retryAfter span _ _ _ ih =>
    exact .later (by simp) (.later (by simp) (ih ho))
  | refreshed text _ ih =>
    exact .later (by simp) (.later (fun other => refresh_ne hc _ (.ok other)) (ih ho))
  | unrefreshed text cause => cases ho

/-- A success among the answers is the outcome. -/
theorem eq_ok_of_mem (hc : c ≠ .refreshCredentials)
    (h : Repeats policy c refreshable limited trace outcome)
    (hm : ⟨.provider c, .ok reply⟩ ∈ trace) : outcome = .ok reply := by
  induction h with
  | answered outcome _ => simpa [eq_comm] using hm
  | limited text retryAfter span _ _ _ ih => exact ih (by simpa using hm)
  | refreshed text _ ih =>
    refine ih ?_
    rcases List.mem_cons.1 hm with heq | hm
    · simp at heq
    · exact (List.mem_cons.1 hm).resolve_left (refresh_ne hc _ _).symm
  | unrefreshed text cause =>
    rcases List.mem_cons.1 hm with heq | hm
    · simp at heq
    · exact absurd (List.mem_singleton.1 hm) (refresh_ne hc _ _).symm

/-- A call is made once at least. -/
theorem exists_mem (h : Repeats policy c refreshable limited trace outcome) :
    ∃ answer, ⟨.provider c, answer⟩ ∈ trace := by
  cases h <;> exact ⟨_, List.mem_cons_self⟩

end Repeats

namespace Retry

variable {α : Type} {policy : RetryPolicy} {attempt : Task (ProviderResult (Option α))}
  {trace : Trace} {found : ProviderResult (Option α)}

theorem runs_describe (h : Program.Runs (describe policy attempt) trace found) :
    ∃ outcome, Program.Runs (call policy attempt) trace outcome ∧
      found = absentIfNotFound outcome := by
  obtain ⟨before, after, outcome, rfl, hc, hr⟩ := Program.runs_bind_iff.1 h
  obtain ⟨rfl, rfl⟩ := Program.runs_done_iff.1 hr
  exact ⟨outcome, by simpa using hc, rfl⟩

/-- Something is found exactly if it was the answer. -/
theorem absentIfNotFound_eq_some_iff {outcome : ProviderResult (Option α)} {a : α} :
    absentIfNotFound outcome = .ok (some a) ↔ outcome = .ok (some a) := by
  unfold absentIfNotFound
  split <;> simp

end Retry

namespace Manager

variable {m : Manager} {trace : Trace}

theorem runs_call {c : ProviderCall} {result : Except CpiError c.Reply}
    (h : (m.call c).Runs trace result) :
    ∃ outcome, Repeats m.options.retry c true 0 trace outcome ∧
      result = outcome.mapError .provider := by
  obtain ⟨outcome, hc, rfl⟩ := Verb.runs_mapError_iff.1 h
  exact ⟨outcome, Retry.repeats_of_runs hc, rfl⟩

/-- A success among the answers to a call is its result. -/
theorem runs_call_of_mem {c : ProviderCall} (hc : c ≠ .refreshCredentials)
    {result : Except CpiError c.Reply} (h : (m.call c).Runs trace result) {reply : c.Reply}
    (seen : ⟨.provider c, .ok reply⟩ ∈ trace) : result = .ok reply := by
  obtain ⟨outcome, hr, rfl⟩ := runs_call h
  obtain rfl := hr.eq_ok_of_mem hc seen
  rfl

/-- A call that succeeds gives its first reply. -/
theorem firstReply_of_call {c : ProviderCall} (hc : c ≠ .refreshCredentials) {reply : c.Reply}
    (h : (m.call c).Runs trace (.ok reply)) : Trace.FirstReply c reply trace := by
  obtain ⟨outcome, hr, ho⟩ := runs_call h
  exact hr.firstReply hc (Verb.mapError_eq_ok_iff.1 ho.symm)

theorem runs_describeVm {id : ResourceId} {result : Except CpiError (Option VmInfo)}
    (h : (m.describeVm id).Runs trace result) :
    ∃ outcome, Repeats m.options.retry (.describeVm id) true 0 trace outcome ∧
      result = (Retry.absentIfNotFound outcome).mapError .provider := by
  obtain ⟨found, hd, rfl⟩ := Verb.runs_mapError_iff.1 h
  obtain ⟨outcome, hc, rfl⟩ := Retry.runs_describe hd
  exact ⟨outcome, Retry.repeats_of_runs hc, rfl⟩

/-- A VM that a description finds is its first reply. -/
theorem firstReply_of_describeVm {id : ResourceId} {vm : VmInfo}
    (h : (m.describeVm id).Runs trace (.ok (some vm))) :
    Trace.FirstReply (.describeVm id) (some vm) trace := by
  obtain ⟨outcome, hr, ho⟩ := runs_describeVm h
  exact hr.firstReply (by simp)
    (Retry.absentIfNotFound_eq_some_iff.1 (Verb.mapError_eq_ok_iff.1 ho.symm))

/-- A VM that has to exist is the one of the first reply, and not gone. -/
theorem firstReply_of_requireVm {id : ResourceId} {vm : VmInfo}
    (h : (m.requireVm id).Runs trace (.ok vm)) :
    Trace.FirstReply (.describeVm id) (some vm) trace ∧ vm.state.isGone = false := by
  obtain ⟨before, after, found, rfl, hd, hf⟩ := Verb.runs_bind_ok_iff.1 h
  cases found with
  | none => cases (Verb.runs_throw_iff.1 hf).2
  | some found =>
    dsimp only at hf
    split at hf
    · cases (Verb.runs_throw_iff.1 hf).2
    · rename_i present
      obtain ⟨rfl, hvm⟩ := Verb.runs_pure_iff.1 hf
      obtain rfl : vm = found := Except.ok.inj hvm
      exact ⟨(firstReply_of_describeVm hd).append [], by simpa using present⟩

end Manager

end CloudLifecycle

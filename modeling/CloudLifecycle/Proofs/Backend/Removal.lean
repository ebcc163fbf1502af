import CloudLifecycle.Proofs.Runs.Reports
import CloudLifecycle.Proofs.Store.Stage

/-!
# Removing what is absent

Four commands remove a resource by one call (`Command.removal?`).  They report a resource as absent
for one cause only: this call was answered that nothing was found (`Trace.Denied`).  Everything
before and after it is beside the removal (`Verb.Beside`): it makes no such call, and where it finds
nothing it goes on or succeeds.  A description reads the answer as absence, a wait has absence among
its targets, and settings that are not stored need no removal.

So the commands pass an absence over that is found by a description, and report one that is found by
the removal itself.
-/

set_option autoImplicit false

namespace CloudLifecycle

/-- The call by which a command removes its resource. -/
def Command.removal? : Command → Option ProviderCall
  | .deleteVm id => some (.terminateInstance id)
  | .deleteDisk id => some (.deleteVolume id)
  | .deleteSnapshot id => some (.deleteSnapshot id)
  | .deleteStemcell id => some (.deleteImage id)
  | _ => none

/-- The call was answered that nothing was found, or the refresh of the credentials that was made
for it was. -/
def Trace.Denied (c : ProviderCall) (trace : Trace) : Prop :=
  ∃ text, ⟨.provider c, .error (.notFound text)⟩ ∈ trace ∨ trace.Unrefreshed c (.notFound text)

namespace Trace

variable {c : ProviderCall} {trace before after : Trace}

/-- A call that was not made was not denied. -/
theorem not_denied_of_unasked (unasked : ∀ answer, ⟨.provider c, answer⟩ ∉ trace) :
    ¬trace.Denied c := by
  rintro ⟨text, denied | ⟨earlier, later, said, rfl⟩⟩
  · exact unasked _ denied
  · exact unasked (.error (.unauthorized said)) (by simp)

theorem unrefreshed_cons_iff {e : Program.Event Action Action.Answer} {cause : ProviderError} :
    Unrefreshed c cause (e :: trace) ↔
      (∃ said rest, e = ⟨.provider c, .error (.unauthorized said)⟩ ∧
        trace = ⟨.provider .refreshCredentials, .error cause⟩ :: rest) ∨
      Unrefreshed c cause trace := by
  constructor
  · rintro ⟨earlier, later, said, course⟩
    cases earlier with
    | nil =>
      obtain ⟨rfl, rfl⟩ := List.cons.inj course
      exact .inl ⟨said, later, rfl, rfl⟩
    | cons first earlier =>
      obtain ⟨rfl, rfl⟩ := List.cons.inj course
      exact .inr ⟨earlier, later, said, rfl⟩
  · rintro (⟨said, rest, rfl, rfl⟩ | unrefreshed)
    · exact ⟨[], rest, said, rfl⟩
    · simpa using unrefreshed.within [e] []

/-- An event other than an answer to the call does not matter. -/
theorem denied_cons_of_ne {e : Program.Event Action Action.Answer}
    (other : ∀ answer, e ≠ ⟨.provider c, answer⟩) : Denied c (e :: trace) ↔ Denied c trace := by
  refine exists_congr fun text => or_congr ?_ ?_
  · rw [List.mem_cons, or_iff_right fun same => other _ same.symm]
  · rw [unrefreshed_cons_iff, or_iff_right]
    rintro ⟨said, rest, same, -⟩
    exact other _ same

/-- An answer denies the call, or a refresh after it does, or it does not matter. -/
theorem denied_cons_iff {answer : ProviderResult c.Reply} :
    Denied c (⟨.provider c, answer⟩ :: trace) ↔
      (∃ text, answer = .error (.notFound text)) ∨
      (∃ text said rest, answer = .error (.unauthorized said) ∧
        trace = ⟨.provider .refreshCredentials, .error (.notFound text)⟩ :: rest) ∨
      Denied c trace := by
  constructor
  · rintro ⟨text, denied | unrefreshed⟩
    · rcases List.mem_cons.1 denied with same | denied
      · cases same
        exact .inl ⟨text, rfl⟩
      · exact .inr (.inr ⟨text, .inl denied⟩)
    · rcases unrefreshed_cons_iff.1 unrefreshed with ⟨said, rest, same, rfl⟩ | unrefreshed
      · cases same
        exact .inr (.inl ⟨text, said, rest, rfl, rfl⟩)
      · exact .inr (.inr ⟨text, .inr unrefreshed⟩)
  · rintro (⟨text, rfl⟩ | ⟨text, said, rest, rfl, rfl⟩ | ⟨text, denied | unrefreshed⟩)
    · exact ⟨text, .inl List.mem_cons_self⟩
    · exact ⟨text, .inr ⟨[], rest, said, rfl⟩⟩
    · exact ⟨text, .inl (List.mem_cons_of_mem _ denied)⟩
    · exact ⟨text, .inr (unrefreshed_cons_iff.2 (.inr unrefreshed))⟩

theorem denied_append_of_unasked (unasked : ∀ answer, ⟨.provider c, answer⟩ ∉ before) :
    Denied c (before ++ after) ↔ Denied c after := by
  induction before with
  | nil => rfl
  | cons e before ih =>
    have first : ∀ answer, e ≠ ⟨.provider c, answer⟩ :=
      fun answer same => unasked answer (same ▸ List.mem_cons_self)
    rw [List.cons_append, denied_cons_of_ne first]
    exact ih fun answer mem => unasked answer (List.mem_cons_of_mem e mem)

end Trace

/-- A call fails because nothing was found exactly where it was denied.  What comes after the call
is beside it, and something comes only after a success. -/
theorem Repeats.denied_iff {policy : RetryPolicy} {c : ProviderCall} {refreshable : Bool}
    {limited : Nat} {trace after : Trace} {outcome : ProviderResult c.Reply}
    (hc : c ≠ .refreshCredentials) (h : Repeats policy c refreshable limited trace outcome)
    (unasked : ∀ answer, ⟨.provider c, answer⟩ ∉ after)
    (goes : after = [] ∨ ∃ reply, outcome = .ok reply) :
    (trace ++ after).Denied c ↔ ∃ text, outcome = .error (.notFound text) := by
  induction h with
  | answered outcome _ =>
    rw [List.singleton_append, Trace.denied_cons_iff, or_iff_left]
    rintro (⟨text, said, rest, refused, rfl⟩ | denied)
    · rcases goes with ended | ⟨reply, success⟩
      · cases ended
      · cases refused.symm.trans success
    · exact Trace.not_denied_of_unasked unasked denied
  | limited text retryAfter span _ _ _ ih =>
    rw [List.cons_append, List.cons_append, Trace.denied_cons_iff, or_iff_right (by simp),
      or_iff_right (by simp), Trace.denied_cons_of_ne (by simp)]
    exact ih goes
  | refreshed text _ ih =>
    rw [List.cons_append, List.cons_append, Trace.denied_cons_iff, or_iff_right (by simp),
      or_iff_right (by simp), Trace.denied_cons_of_ne (refresh_ne hc _)]
    exact ih goes
  | unrefreshed text cause =>
    have ended : after = [] := goes.resolve_right (by simp)
    subst ended
    rw [List.append_nil, Trace.denied_cons_iff, or_iff_right (by simp)]
    constructor
    · rintro (⟨text, said, rest, -, same⟩ | denied)
      · cases same
        exact ⟨text, rfl⟩
      · rw [Trace.denied_cons_of_ne (refresh_ne hc _)] at denied
        exact absurd denied (Trace.not_denied_of_unasked (by simp))
    · rintro ⟨text, same⟩
      cases same
      exact .inl ⟨text, _, [], rfl, rfl⟩

/-- The verb makes no such call and never fails because something was not found. -/
structure Verb.Beside {α : Type} (c : ProviderCall) (verb : Verb α) : Prop where
  unasked {trace : Trace} {result : Except CpiError α} (h : verb.Runs trace result)
    (answer : ProviderResult c.Reply) : ⟨.provider c, answer⟩ ∉ trace
  found {trace : Trace} {e : CpiError} (h : verb.Runs trace (.error e)) : e.isNotFound = false

/-- The verb fails because something was not found exactly where the call was denied. -/
def Verb.Denies {α : Type} (c : ProviderCall) (verb : Verb α) : Prop :=
  ∀ trace result, verb.Runs trace result →
    ((∃ e, result = .error e ∧ e.isNotFound = true) ↔ trace.Denied c)

namespace Verb

variable {α β : Type} {c : ProviderCall} {verb : Verb α}

/-! ## Parts beside the removal -/

theorem beside_outcome {outcome : Except CpiError α}
    (found : ∀ e, outcome = .error e → e.isNotFound = false) :
    Beside c (ExceptT.mk (pure outcome) : Verb α) where
  unasked h answer := by
    rw [(runs_outcome_iff.1 h).1]
    exact List.not_mem_nil
  found h := found _ (runs_outcome_iff.1 h).2.symm

theorem beside_pure (a : α) : Beside c (pure a : Verb α) := beside_outcome fun _ h => nomatch h

theorem beside_throw {e : CpiError} (found : e.isNotFound = false) :
    Beside c (throw e : Verb α) :=
  beside_outcome fun _ h => Except.error.inj h ▸ found

/-- What would come after a failure does not matter. -/
theorem beside_throw_bind {e : CpiError} (found : e.isNotFound = false) (f : α → Verb β) :
    Beside c ((throw e : Verb α) >>= f) :=
  beside_throw found

/-- Failures of the settings store are reported as what they are. -/
theorem beside_settings (stored : SettingsCall) : Beside c (settings stored) where
  unasked h answer mem := by
    obtain ⟨given, rfl, -⟩ := runs_settings_iff.1 h
    have same := congrArg Program.Event.question (List.mem_singleton.1 mem)
    cases same
  found h := by
    obtain ⟨given, -, failed⟩ := runs_settings_iff.1 h
    cases given with
    | ok reply => cases failed
    | error cause =>
      obtain rfl := Except.error.inj failed
      rfl

namespace Beside

theorem bind {f : α → Verb β} (hv : verb.Beside c) (hf : ∀ a, (f a).Beside c) :
    Beside c (verb >>= f) where
  unasked h answer := by
    rcases runs_bind_iff.1 h with ⟨e, ran, -⟩ | ⟨before, after, a, rfl, ran, later⟩
    · exact hv.unasked ran answer
    · intro mem
      rcases List.mem_append.1 mem with mem | mem
      · exact hv.unasked ran answer mem
      · exact (hf a).unasked later answer mem
  found h := by
    rcases runs_bind_iff.1 h with ⟨e, ran, same⟩ | ⟨before, after, a, rfl, ran, later⟩
    · exact Except.error.inj same ▸ hv.found ran
    · exact (hf a).found later

theorem tryCatch {handle : CpiError → Verb α} (hv : verb.Beside c)
    (hh : ∀ e, e.isNotFound = false → (handle e).Beside c) :
    Beside c (tryCatch verb handle) where
  unasked h answer := by
    rcases runs_tryCatch_iff.1 h with ⟨a, ran, -⟩ | ⟨before, after, e, rfl, ran, later⟩
    · exact hv.unasked ran answer
    · intro mem
      rcases List.mem_append.1 mem with mem | mem
      · exact hv.unasked ran answer mem
      · exact (hh e (hv.found ran)).unasked later answer mem
  found h := by
    rcases runs_tryCatch_iff.1 h with ⟨a, -, same⟩ | ⟨before, after, e, rfl, ran, later⟩
    · cases same
    · exact (hh e (hv.found ran)).found later

theorem discard (hv : verb.Beside c) : Beside c (discard verb) := hv.bind fun _ => beside_pure _

end Beside

/-- A description of which the call is none reads what was not found as absent. -/
theorem beside_describe {policy : RetryPolicy} {attempt : Task (ProviderResult (Option α))}
    {d : ProviderCall} (calls : attempt.Calls (· = d)) (hr : c ≠ .refreshCredentials)
    (hc : c ≠ d) :
    Beside c (ExceptT.mk do
      return (← Retry.describe policy attempt).mapError .provider : Verb (Option α)) where
  unasked h answer := by
    have described := calls_mapError (Retry.calls_describe policy calls) CpiError.provider
    exact (described.callsIn h).not_mem hr hc answer
  found h := by
    obtain ⟨found, described, failed⟩ := runs_mapError_iff.1 h
    obtain ⟨outcome, -, rfl⟩ := Retry.runs_describe described
    unfold Retry.absentIfNotFound at failed
    split at failed
    · cases failed
    · rename_i answered
      cases outcome with
      | ok found => cases failed
      | error cause =>
        obtain rfl := Except.error.inj failed
        cases cause with
        | notFound text => exact absurd rfl (answered text)
        | _ => rfl

/-- A wait fetches, and otherwise it fails for causes of its own. -/
theorem beside_wait {σ : Type} [IsState σ] [DecidableEq σ] (w : Waiter) {kind : ResourceKind}
    {id : String} {targets : List σ} {fetch : Verb σ} (h : fetch.Beside c) :
    (w.wait kind id targets fetch).Beside c where
  unasked ran answer mem := by
    obtain ⟨started, rest, rfl, polls⟩ := Waiter.polls_of_runs ran
    obtain ⟨polled, fetched, hf, mem, -⟩ := polls.fetched_of_mem (by simpa using mem)
    exact h.unasked hf answer mem
  found {trace e} ran := by
    obtain ⟨started, rest, -, polls⟩ := Waiter.polls_of_runs ran
    clear ran
    generalize hresult : (.error e : Except CpiError σ) = result at polls
    induction polls with
    | cancelled | late _ | terminal _ _ _ =>
      obtain rfl := Except.error.inj hresult
      rfl
    | failed _ fetched =>
      obtain rfl := Except.error.inj hresult
      exact h.found fetched
    | reached _ _ _ _ => cases hresult
    | again _ _ _ _ _ ih => exact ih hresult

/-! ## The removal and the verb around it -/

theorem denies_of_beside (hv : verb.Beside c) : verb.Denies c := by
  intro trace result ran
  refine iff_of_false ?_ (Trace.not_denied_of_unasked (hv.unasked ran))
  rintro ⟨e, rfl, missing⟩
  rw [hv.found ran] at missing
  cases missing

/-- What comes before the removal does not matter. -/
theorem Beside.denies_bind {f : α → Verb β} (hv : verb.Beside c) (hf : ∀ a, (f a).Denies c) :
    Denies c (verb >>= f) := by
  intro trace result ran
  rcases runs_bind_iff.1 ran with ⟨e, failed, rfl⟩ | ⟨before, after, a, rfl, first, later⟩
  · have denied := denies_of_beside hv trace (.error e) failed
    simpa using denied
  · rw [Trace.denied_append_of_unasked (hv.unasked first)]
    exact hf a after result later

end Verb

namespace Manager

open Verb

variable {m : Manager} {c : ProviderCall}

/-- Failures of the backend are reported as what they are. -/
theorem isNotFound_of_outcome {α : Type} {outcome : ProviderResult α} :
    (∃ e, outcome.mapError CpiError.provider = .error e ∧ e.isNotFound = true) ↔
      ∃ text, outcome = .error (.notFound text) := by
  cases outcome with
  | ok reply =>
    refine iff_of_false ?_ (by simp)
    rintro ⟨e, impossible, -⟩
    cases impossible
  | error cause =>
    have reported : (Except.error cause : ProviderResult α).mapError CpiError.provider =
        .error (.provider cause) := rfl
    rw [reported]
    cases cause <;> simp [CpiError.isNotFound]

theorem denies_call (hc : c ≠ .refreshCredentials) : (m.call c).Denies c := by
  intro trace result ran
  obtain ⟨outcome, repeats, rfl⟩ := runs_call ran
  have denied := repeats.denied_iff hc (fun _ => List.not_mem_nil) (.inl rfl)
  rw [List.append_nil] at denied
  rw [isNotFound_of_outcome, denied]

/-- Neither does what comes after it. -/
theorem denies_call_bind {α : Type} {f : c.Reply → Verb α} (hc : c ≠ .refreshCredentials)
    (hf : ∀ reply, (f reply).Beside c) : (m.call c >>= f).Denies c := by
  intro trace result ran
  rcases runs_bind_iff.1 ran with ⟨e, failed, rfl⟩ | ⟨called, after, reply, rfl, accepted, later⟩
  · have denied := denies_call hc trace (.error e) failed
    simpa using denied
  · obtain ⟨outcome, repeats, success⟩ := runs_call accepted
    have success := mapError_eq_ok_iff.1 success.symm
    rw [repeats.denied_iff hc ((hf reply).unasked later) (.inr ⟨reply, success⟩), success]
    refine iff_of_false ?_ (by simp)
    rintro ⟨e, rfl, missing⟩
    rw [(hf reply).found later] at missing
    cases missing

theorem beside_dropSettings (key : String) : (dropSettings key).Beside c := by
  refine (beside_settings _).tryCatch fun e found => ?_
  split
  · exact beside_pure _
  · exact beside_throw found

theorem denies_deleteVm (id : ResourceId) : (m.deleteVm id).Denies (.terminateInstance id) := by
  have described : (m.describeVm id).Beside (.terminateInstance id) :=
    beside_describe (Task.calls_provider _) (by simp) (by simp)
  refine described.denies_bind fun found => ?_
  cases found with
  | none => exact denies_of_beside (beside_pure _)
  | some vm =>
    dsimp only
    split
    · exact denies_of_beside (beside_pure _)
    · refine denies_call_bind (by simp) fun _ => ?_
      have polled := described.bind fun found => beside_pure (stateOf VmInfo.state found)
      exact (beside_wait _ polled).discard.bind fun _ => beside_dropSettings _

theorem denies_deleteDisk (id : ResourceId) : (m.deleteDisk id).Denies (.deleteVolume id) := by
  have described : (m.describeVolume id).Beside (.deleteVolume id) :=
    beside_describe (Task.calls_provider _) (by simp) (by simp)
  refine described.denies_bind fun found => ?_
  cases found with
  | none => exact denies_of_beside (beside_pure _)
  | some volume =>
    dsimp only
    split
    · exact denies_of_beside (beside_pure _)
    split
    · exact denies_of_beside (beside_throw_bind rfl _)
    · refine denies_call_bind (by simp) fun _ => ?_
      have polled := described.bind fun found => beside_pure (stateOf VolumeInfo.state found)
      exact (beside_wait _ polled).discard

theorem denies_deleteSnapshot (id : ResourceId) :
    (m.deleteSnapshot id).Denies (.deleteSnapshot id) := by
  have described : (m.describeSnapshot id).Beside (.deleteSnapshot id) :=
    beside_describe (Task.calls_provider _) (by simp) (by simp)
  refine described.denies_bind fun found => ?_
  cases found with
  | none => exact denies_of_beside (beside_pure _)
  | some snapshot =>
    dsimp only
    split
    · exact denies_of_beside (beside_pure _)
    · refine denies_call_bind (by simp) fun _ => ?_
      have polled := described.bind fun found => beside_pure (stateOf SnapshotInfo.state found)
      exact (beside_wait _ polled).discard

theorem denies_deleteStemcell (id : ResourceId) :
    (m.deleteStemcell id).Denies (.deleteImage id) := by
  have described : (m.describeImage id).Beside (.deleteImage id) :=
    beside_describe (Task.calls_provider _) (by simp) (by simp)
  refine described.denies_bind fun found => ?_
  cases found with
  | none => exact denies_of_beside (beside_pure _)
  | some image => exact denies_call (by simp)

/-- A command without a result fails as its verb does. -/
theorem denies_withoutResult {verb : Verb Unit} (h : verb.Denies c) :
    (withoutResult verb).Denies c := by
  intro trace result ran
  obtain ⟨first, removed, rfl⟩ := runs_bind_pure_iff.1 ran
  rw [← h trace first removed]
  cases first <;> simp [Except.map]

/-- **What removals report as absent.**  A command that removes a resource fails because something
was not found exactly where the removing call itself was answered so, or a refresh of the
credentials that was made for it.  An absence that is found before, by the description, or after, in
the wait or in the settings store, is passed over. -/
theorem perform_denied_iff {command : Command} {removal : ProviderCall}
    (removes : command.removal? = some removal) {trace : Trace} {result : Except CpiError Json}
    (ran : (m.perform command).Runs trace result) :
    (∃ e, result = .error e ∧ e.isNotFound = true) ↔ trace.Denied removal := by
  cases command with
  | deleteVm id =>
    obtain rfl := Option.some.inj removes
    exact denies_withoutResult (denies_deleteVm id) trace result ran
  | deleteDisk id =>
    obtain rfl := Option.some.inj removes
    exact denies_withoutResult (denies_deleteDisk id) trace result ran
  | deleteSnapshot id =>
    obtain rfl := Option.some.inj removes
    exact denies_withoutResult (denies_deleteSnapshot id) trace result ran
  | deleteStemcell id =>
    obtain rfl := Option.some.inj removes
    exact denies_withoutResult (denies_deleteStemcell id) trace result ran
  | _ => cases removes

/-- An image that is there is deleted, and nothing denies it. -/
theorem perform_denied_iff_accepted : ∃ trace,
    (small.perform (.deleteStemcell ⟨"img-1"⟩)).Runs trace (.ok .null) ∧
      trace ≠ [] ∧ ¬trace.Denied (.deleteImage ⟨"img-1"⟩) := by
  have ran : (small.perform (.deleteStemcell ⟨"img-1"⟩)).Runs
      [⟨.provider (.describeImage ⟨"img-1"⟩), .ok (some ⟨⟨"img-1"⟩, "stemcell"⟩)⟩,
        ⟨.provider (.deleteImage ⟨"img-1"⟩), .ok ()⟩] (.ok .null) :=
    .ask _ (.ask _ (.done _))
  refine ⟨_, ran, by simp, fun denied => ?_⟩
  obtain ⟨e, impossible, -⟩ := (perform_denied_iff rfl ran).2 denied
  cases impossible

/-- The VM goes away between its description and the call that terminates it; that it is absent is
reported as a failure then. -/
theorem perform_deleteVm_denied : ∃ trace e,
    (small.perform (.deleteVm ⟨"i-1"⟩)).Runs trace (.error e) ∧ e.isNotFound = true :=
  ⟨[⟨.provider (.describeVm ⟨"i-1"⟩),
      .ok (some ⟨⟨"i-1"⟩, "vm-1", .running, none, [], none⟩)⟩,
    ⟨.provider (.terminateInstance ⟨"i-1"⟩), .error (.notFound "i-1")⟩],
    _, .ask _ (.ask _ (.done _)), rfl⟩

end Manager

end CloudLifecycle

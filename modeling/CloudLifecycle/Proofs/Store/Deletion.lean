import CloudLifecycle.Proofs.Store.Frame

/-!
# What a deleted VM leaves in the settings store

A deletion that succeeds takes the settings of a VM away if its first description shows the VM as
one that is still there.  A VM that is described as gone already is passed over and its settings
with it: where an earlier deletion was interrupted between the call that terminates the VM and the
one that removes its settings, they stay for good (`Manager.deleteVm_interrupted`).
-/

set_option autoImplicit false

namespace CloudLifecycle.Manager

open SettingsStore

variable {m : Manager} {id : ResourceId} {vm : VmInfo} {trace : Trace}
  {before after : SettingsStore}

/-- A description that finds nothing was not answered with a VM. -/
theorem eq_none_of_describeVm_none {reply : Option VmInfo}
    (looked : (m.describeVm id).Runs trace (.ok none))
    (answered : ⟨.provider (.describeVm id), .ok reply⟩ ∈ trace) : reply = none := by
  obtain ⟨outcome, repeats, ho⟩ := runs_describeVm looked
  obtain rfl := repeats.eq_ok_of_mem (by simp) answered
  exact (Except.ok.inj ho).symm

/-- **A deletion drops the settings of a VM that was still there.**  Whatever the backend, the store
and the flag have answered: a deletion that succeeds and that found the VM present leaves no
settings under its name and all others as they were; or the store has answered that it holds none
and is as it was.  One that found the VM gone leaves the whole store as it was. -/
theorem deleteVm_drops (ran : (m.deleteVm id).Runs trace (.ok ()))
    (served : before.Serves trace after)
    (first : trace.FirstReply (.describeVm id) (some vm)) :
    (vm.state.isGone = false → before.SameExcept vm.name after ∧
      (after.find? vm.name = none ∨
        (∃ text, ⟨.settings (.delete vm.name), .error (.notFound text)⟩ ∈ trace) ∧
          after = before)) ∧
    (vm.state.isGone = true → after = before) := by
  cases deletion_of_runs ran served with
  | absent looked => cases eq_none_of_describeVm_none looked first.mem
  | passed looked gone =>
    have same := first.unique (firstReply_of_describeVm looked)
    obtain rfl := Option.some.inj same
    refine ⟨fun present => ?_, fun _ => rfl⟩
    cases gone.symm.trans present
  | dropped looked present _ =>
    have same := first.unique ((firstReply_of_describeVm looked).append _)
    obtain rfl := Option.some.inj same
    refine ⟨fun _ => ⟨sameExcept_delete before _, .inl ?_⟩, fun gone => ?_⟩
    · simp [SettingsStore.delete]
    · cases present.symm.trans gone
  | unstored looked present denied =>
    have same := first.unique ((firstReply_of_describeVm looked).append _)
    obtain rfl := Option.some.inj same
    exact ⟨fun _ => ⟨sameExcept_refl _ before, .inr ⟨⟨_, List.mem_append_right _ denied⟩, rfl⟩⟩,
      fun _ => rfl⟩

/-- A VM in some state. -/
def vmOne (state : VmState) : VmInfo := ⟨⟨"i-1"⟩, "vm-1", state, none, [], none⟩

/-- The settings of this VM, with a password in its environment. -/
def secretSettings : AgentSettings :=
  .initial "vm-1" "agent" Dict.empty (some (.object [("password", .text "c1oud")]))

/-- A store with these settings only. -/
def storeOne : SettingsStore := SettingsStore.update Dict.empty "vm-1" secretSettings

/-- The VM is described, terminated and looked at once, with these answers. -/
def terminating (state : VmState) (polled : ProviderResult (Option VmInfo)) : Trace := [
  ⟨.provider (.describeVm ⟨"i-1"⟩), .ok (some (vmOne state))⟩,
  ⟨.provider (.terminateInstance ⟨"i-1"⟩), .ok ()⟩,
  ⟨.clock, Duration.zero⟩, ⟨.cancelled, false⟩, ⟨.clock, Duration.zero⟩,
  ⟨.provider (.describeVm ⟨"i-1"⟩), polled⟩]

theorem serves_terminating (state : VmState) (polled : ProviderResult (Option VmInfo))
    (store : SettingsStore) : store.Serves (terminating state polled) store := by
  iterate 6 refine .cons (.elsewhere nofun) ?_
  exact .nil store

/-- A running VM is deleted with its settings. -/
theorem deleteVm_drops_running : ∃ trace after,
    (small.deleteVm ⟨"i-1"⟩).Runs trace (.ok ()) ∧ storeOne.Serves trace after ∧
      (storeOne.find? "vm-1").isSome ∧ after.find? "vm-1" = none := by
  let trace := terminating .running (.ok (some (vmOne .terminated))) ++
    [⟨.settings (.delete "vm-1"), .ok ()⟩]
  have ran : (small.deleteVm ⟨"i-1"⟩).Runs trace (.ok ()) := by
    repeat apply Program.Runs.ask
    exact .done _
  have served : storeOne.Serves trace (storeOne.delete "vm-1") :=
    serves_append_iff.2 ⟨storeOne, serves_terminating _ _ _, .cons (.delete "vm-1") (.nil _)⟩
  have first : trace.FirstReply (.describeVm ⟨"i-1"⟩) (some (vmOne .running)) := .here _
  have laws := (deleteVm_drops ran served first).1 rfl
  refine ⟨trace, _, ran, served, rfl, ?_⟩
  rcases laws.2 with dropped | ⟨⟨text, denied⟩, -⟩
  · exact dropped
  · simp [trace, terminating, vmOne] at denied

/-- A deletion is interrupted once the VM is asked to terminate.  The next one finds it terminated
and succeeds, and its settings are there as before.  They are there as well after a deletion that
was answered that there are none. -/
theorem deleteVm_interrupted :
    (∃ first second e,
      (small.deleteVm ⟨"i-1"⟩).Runs first (.error e) ∧ storeOne.Serves first storeOne ∧
      ⟨.provider (.terminateInstance ⟨"i-1"⟩), .ok ()⟩ ∈ first ∧
      (small.deleteVm ⟨"i-1"⟩).Runs second (.ok ()) ∧ storeOne.Serves second storeOne ∧
      second.FirstReply (.describeVm ⟨"i-1"⟩) (some (vmOne .terminated)) ∧
      storeOne.find? (vmOne .terminated).name = some secretSettings) ∧
    ∃ trace,
      (small.deleteVm ⟨"i-1"⟩).Runs trace (.ok ()) ∧ storeOne.Serves trace storeOne ∧
      trace.FirstReply (.describeVm ⟨"i-1"⟩) (some (vmOne .running)) ∧
      storeOne.find? (vmOne .running).name = some secretSettings := by
  constructor
  · let polled : ProviderResult (Option VmInfo) := .error (.transport "connection reset")
    have interrupted : (small.deleteVm ⟨"i-1"⟩).Runs (terminating .running polled)
        (.error (.provider (.transport "connection reset"))) := by
      repeat apply Program.Runs.ask
      exact .done _
    have again : (small.deleteVm ⟨"i-1"⟩).Runs
        [⟨.provider (.describeVm ⟨"i-1"⟩), .ok (some (vmOne .terminated))⟩] (.ok ()) :=
      .ask _ (.done _)
    have quiet : storeOne.Serves
        [⟨.provider (.describeVm ⟨"i-1"⟩), .ok (some (vmOne .terminated))⟩] storeOne :=
      .cons (.elsewhere nofun) (.nil _)
    exact ⟨_, _, _, interrupted, serves_terminating .running polled storeOne,
      by simp [terminating], again, quiet, .here _, rfl⟩
  · let polled : ProviderResult (Option VmInfo) := .ok (some (vmOne .terminated))
    have ran : (small.deleteVm ⟨"i-1"⟩).Runs (terminating .running polled ++
        [⟨.settings (.delete "vm-1"), .error (.notFound "vm-1")⟩]) (.ok ()) := by
      repeat apply Program.Runs.ask
      exact .done _
    have served := serves_append_iff.2 ⟨storeOne, serves_terminating .running polled storeOne,
      .cons (.failed (.delete "vm-1") (.notFound "vm-1")) (.nil _)⟩
    exact ⟨_, ran, served, .here _, rfl⟩

end CloudLifecycle.Manager

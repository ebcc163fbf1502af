import CloudLifecycle.Proofs.Runs.Wait
import CloudLifecycle.Proofs.Store.Stage

/-!
# New VMs that are given up

Creating a VM checks the request, asks for the VM and waits until it runs; then it looks the VM up,
applies its networks and stores its settings.  A VM that does not come up is terminated before the
failure is reported.  One that came up is never terminated, whatever fails after that: its id is
not reported either, so nobody will (`createVm_terminated_iff`).
-/

set_option autoImplicit false

namespace CloudLifecycle.Manager

variable {m : Manager} {trace : Trace} {request : VmRequest}

/-- How far a run has come that creates a VM. -/
inductive Creation (m : Manager) : Trace → Except CpiError ResourceId → Prop where
  /-- No VM came into being. -/
  | refused {trace : Trace} (e : CpiError)
      (uncreated : ∀ params id, ⟨.provider (.runInstance params), .ok id⟩ ∉ trace) :
      Creation m trace (.error e)
  /-- The VM did not come up and was given up. -/
  | stillborn {prepared asked waited rest : Trace} {params : CreateVmParams} {id : ResourceId}
      {cause : CpiError} (preparing : prepared.CallsIn PreparingCall)
      (created : (m.call (.runInstance params)).Runs asked (.ok id))
      (failed : (m.waitVm id [.running]).Runs waited (.error cause))
      (given : (m.giveUp id).Runs rest (.ok ())) :
      Creation m (prepared ++ (asked ++ (waited ++ rest))) (.error (creationError id cause))
  /-- The VM came up. -/
  | booted {prepared asked waited rest : Trace} {params : CreateVmParams} {id : ResourceId}
      {result : Except CpiError ResourceId} (preparing : prepared.CallsIn PreparingCall)
      (created : (m.call (.runInstance params)).Runs asked (.ok id))
      (running : (m.waitVm id [.running]).Runs waited (.ok ()))
      (configuring : rest.CallsIn fun c => ∃ vm, NetworkCall vm c) :
      Creation m (prepared ++ (asked ++ (waited ++ rest))) result

theorem runs_awaitCreated {id : ResourceId} {result : Except CpiError Unit}
    (h : (m.awaitCreated id).Runs trace result) :
    ((m.waitVm id [.running]).Runs trace (.ok ()) ∧ result = .ok ()) ∨
      ∃ waited rest cause, trace = waited ++ rest ∧
        (m.waitVm id [.running]).Runs waited (.error cause) ∧
        (m.giveUp id).Runs rest (.ok ()) ∧ result = .error (creationError id cause) := by
  rcases Verb.runs_tryCatch_iff.1 h with ⟨_, hw, rfl⟩ | ⟨waited, rest, cause, rfl, hw, hc⟩
  · exact .inl ⟨hw, rfl⟩
  rcases Verb.runs_bind_iff.1 hc with ⟨e, hg, _⟩ | ⟨given, thrown, _, rfl, hg, ht⟩
  · obtain ⟨_, _, he⟩ := Verb.runs_lift_iff.1 hg
    cases he
  · obtain ⟨rfl, rfl⟩ := Verb.runs_throw_iff.1 ht
    exact .inr ⟨waited, given, cause, by simp, hw, hg, rfl⟩

/-- Once the VM runs it is looked up, its networks are applied and its settings are stored. -/
theorem callsIn_configuring {roles : NetworkRoles} {id : ResourceId} {name : String}
    {settings : AgentSettings} {result : Except CpiError ResourceId}
    (h : Verb.Runs (do
      let vm ← m.requireVm id
      m.applyNetworks roles vm
      Verb.settings (.update name settings)
      return id) trace result) :
    trace.CallsIn fun c => ∃ vm, NetworkCall vm c := by
  have looking {looked : Trace} {found : Except CpiError VmInfo}
      (hr : (m.requireVm id).Runs looked found) : looked.CallsIn fun c => ∃ vm, NetworkCall vm c :=
    ((m.calls_requireVm id).callsIn hr).mono fun _ hc => ⟨id, hc ▸ rfl⟩
  have applying {applied : Trace} {vm : VmInfo} {done : Except CpiError Unit}
      (hn : (m.applyNetworks roles vm).Runs applied done) :
      applied.CallsIn fun c => ∃ vm, NetworkCall vm c :=
    ((m.calls_applyNetworks roles vm).callsIn hn).mono fun _ hc => ⟨vm.id, hc⟩
  rcases Verb.runs_bind_iff.1 h with ⟨e, hr, _⟩ | ⟨looked, rest, vm, rfl, hr, hrest⟩
  · exact looking hr
  rcases Verb.runs_bind_iff.1 hrest with ⟨e, hn, _⟩ | ⟨applied, stored, _, rfl, hn, hs⟩
  · exact (looking hr).append (applying hn)
  obtain ⟨_, hu, _⟩ := Verb.runs_bind_pure_iff.1 hs
  obtain ⟨answer, rfl, _⟩ := Verb.runs_settings_iff.1 hu
  exact (looking hr).append ((applying hn).append (by simp [Trace.CallsIn]))

/-- A VM that was created is the result of the call for it. -/
theorem runs_runInstance_of_mem {params asked : CreateVmParams} {id : ResourceId}
    {result : Except CpiError ResourceId} (h : (m.call (.runInstance asked)).Runs trace result)
    (created : ⟨.provider (.runInstance params), .ok id⟩ ∈ trace) : result = .ok id := by
  have same : params = asked := by
    simpa using (m.calls_call (.runInstance asked)).callsIn h _ created _ rfl
  subst same
  exact runs_call_of_mem (by simp) h created

/-- **The course of a creation**: refused, given up, or come up. -/
theorem creation_of_runs {result : Except CpiError ResourceId}
    (h : (m.createVm request).Runs trace result) : Creation m trace result := by
  have unprepared {prepared : Trace} {e : CpiError} (preparing : prepared.CallsIn PreparingCall) :
      Creation m prepared (.error e) :=
    .refused e fun params id => preparing.not_mem (by simp) (by simp [PreparingCall]) _
  obtain ⟨fresh, rest, rfl, hfresh⟩ := Verb.runs_ask_bind_iff.1 h
  have naming : Trace.CallsIn PreparingCall [⟨.freshName, fresh⟩] := by simp [Trace.CallsIn]
  rcases Verb.runs_bind_iff.1 hfresh with ⟨e, ho, rfl⟩ | ⟨sorted, rest, roles, rfl, ho, hroles⟩
  · obtain ⟨rfl, -⟩ := Verb.runs_outcome_iff.1 ho
    exact unprepared naming
  obtain ⟨rfl, -⟩ := Verb.runs_outcome_iff.1 ho
  rcases Verb.runs_bind_iff.1 hroles with ⟨e, hp, rfl⟩ | ⟨checked, rest, params, rfl, hp, hparams⟩
  · exact unprepared (naming.append ((m.calls_prepareVm _ _ _).callsIn hp))
  have preparing := naming.append ((m.calls_prepareVm _ _ _).callsIn hp)
  rcases Verb.runs_bind_iff.1 hparams with ⟨e, hc, rfl⟩ | ⟨asked, rest, id, rfl, hc, hid⟩
  · refine .refused e fun created id hm => ?_
    have hm : ⟨.provider (.runInstance created), .ok id⟩ ∈
        ([⟨.freshName, fresh⟩] ++ ([] ++ checked)) ++ rest := by simpa using hm
    rcases List.mem_append.1 hm with hm | hm
    · exact preparing.not_mem (by simp) (by simp [PreparingCall]) _ hm
    · cases runs_runInstance_of_mem hc hm
  rcases Verb.runs_bind_iff.1 hid with ⟨e, hw, rfl⟩ | ⟨waited, rest, _, rfl, hw, hrest⟩
  · rcases runs_awaitCreated hw with ⟨_, he⟩ | ⟨waited, rest, cause, rfl, failed, given, he⟩
    · cases he
    obtain rfl := Except.error.inj he
    exact .stillborn preparing hc failed given
  · rcases runs_awaitCreated hw with ⟨running, _⟩ | ⟨_, _, _, _, _, _, he⟩
    · exact .booted preparing hc running (callsIn_configuring hrest)
    · cases he

/-- A VM that was created in such a course is the one that is waited for. -/
theorem eq_of_created {prepared asked waited rest : Trace} {params wanted : CreateVmParams}
    {id waitedFor : ResourceId} {outcome : Except CpiError Unit} {S : ProviderCall → Prop}
    (preparing : prepared.CallsIn PreparingCall)
    (called : (m.call (.runInstance wanted)).Runs asked (.ok waitedFor))
    (awaited : (m.waitVm waitedFor [.running]).Runs waited outcome) (later : rest.CallsIn S)
    (hS : ¬S (.runInstance params))
    (created : ⟨.provider (.runInstance params), .ok id⟩ ∈
      prepared ++ (asked ++ (waited ++ rest))) : id = waitedFor := by
  simp only [List.mem_append] at created
  rcases created with hm | hm | hm | hm
  · exact absurd hm (preparing.not_mem (by simp) (by simp [PreparingCall]) _)
  · exact (Except.ok.inj (runs_runInstance_of_mem called hm)).symm
  · exact absurd hm (((m.calls_waitVm _ _).callsIn awaited).not_mem (by simp) (by simp) _)
  · exact absurd hm (later.not_mem (by simp) hS _)

theorem mem_of_giveUp {id : ResourceId} {result : Except CpiError Unit}
    (h : (m.giveUp id).Runs trace result) :
    ∃ answer, ⟨.provider (.terminateInstance id), answer⟩ ∈ trace := by
  obtain ⟨_, hg, _⟩ := Verb.runs_lift_iff.1 h
  obtain ⟨called, _, _, rfl, hc, _⟩ := Program.runs_bind_iff.1 hg
  obtain ⟨answer, hm⟩ := (Retry.repeats_of_runs hc).exists_mem
  exact ⟨answer, by simp [hm]⟩

/-- The VM that was created is terminated if it was never seen running, and only then. -/
theorem Creation.terminated_iff {e : CpiError} (h : Creation m trace (.error e))
    {params : CreateVmParams} {id : ResourceId}
    (created : ⟨.provider (.runInstance params), .ok id⟩ ∈ trace) :
    (∃ answer, ⟨.provider (.terminateInstance id), answer⟩ ∈ trace) ↔
      ∀ vm, ⟨.provider (.describeVm id), .ok (some vm)⟩ ∈ trace → vm.state ≠ .running := by
  cases h with
  | refused _ uncreated => exact absurd created (uncreated params id)
  | @stillborn prepared asked waited rest wanted waitedFor cause preparing called failed given =>
    have giving := (m.calls_giveUp waitedFor).callsIn given
    obtain rfl := eq_of_created preparing called failed giving (by simp) created
    constructor
    · intro _ vm seen
      simp only [List.mem_append] at seen
      rcases seen with hm | hm | hm | hm
      · exact absurd hm (preparing.not_mem (by simp) (by simp [PreparingCall]) _)
      · exact absurd hm (((m.calls_call _).callsIn called).not_mem (by simp) (by simp) _)
      · intro running
        exact not_mem_of_waitVm_error failed hm (by rw [running]; rfl) (by simp [running])
      · exact absurd hm (giving.not_mem (by simp) (by simp) _)
    · intro _
      obtain ⟨answer, hm⟩ := mem_of_giveUp given
      exact ⟨answer, by simp [hm]⟩
  | @booted prepared asked waited rest wanted waitedFor result preparing called running
      configuring =>
    obtain rfl := eq_of_created preparing called running configuring (by simp [NetworkCall]) created
    constructor
    · rintro ⟨answer, hm⟩
      simp only [List.mem_append] at hm
      rcases hm with hm | hm | hm | hm
      · exact absurd hm (preparing.not_mem (by simp) (by simp [PreparingCall]) _)
      · exact absurd hm (((m.calls_call _).callsIn called).not_mem (by simp) (by simp) _)
      · exact absurd hm (((m.calls_waitVm _ _).callsIn running).not_mem (by simp) (by simp) _)
      · exact absurd hm (configuring.not_mem (by simp) (by simp [NetworkCall]) _)
    · intro unseen
      obtain ⟨vm, hm, target⟩ := mem_of_waitVm_ok (by simp) running
      exact absurd (List.mem_singleton.1 target) (unseen vm (by simp [hm]))

/-- **Which new VMs are given up.**  A creation that fails once there is a VM has asked for its
termination exactly if the VM was never seen running: a VM that came up stays, whichever of the
later steps has failed. -/
theorem createVm_terminated_iff {e : CpiError} (h : (m.createVm request).Runs trace (.error e))
    {params : CreateVmParams} {id : ResourceId}
    (created : ⟨.provider (.runInstance params), .ok id⟩ ∈ trace) :
    (∃ answer, ⟨.provider (.terminateInstance id), answer⟩ ∈ trace) ↔
      ∀ vm, ⟨.provider (.describeVm id), .ok (some vm)⟩ ∈ trace → vm.state ≠ .running :=
  (creation_of_runs h).terminated_iff created

/-- The events of the small creation on a stage with these cues besides. -/
def smallCreation (more : List (String × List Cue)) : Trace :=
  Stage.surroundings.events (Manager.small.createVm .small).run (Stage.small more)

/-- The VM boots into a state of failure. -/
def bootFails : List (String × List Cue) :=
  [("describe_vm", [⟨Duration.zero, false, .value (.object [("state", .text "error")])⟩])]

/-- The settings cannot be stored. -/
def storeFails : List (String × List Cue) :=
  [("settings.update", [⟨Duration.zero, false, .storeFailed (.request "down")⟩])]

/-- A VM that fails to boot is given up. -/
theorem createVm_terminated_bootFails : ∃ e params,
    (Manager.small.createVm .small).Runs (smallCreation bootFails) (.error e) ∧
      ⟨.provider (.runInstance params), .ok ⟨"i-1"⟩⟩ ∈ smallCreation bootFails ∧
      ((∃ answer, ⟨.provider (.terminateInstance ⟨"i-1"⟩), answer⟩ ∈ smallCreation bootFails) ↔
        ∀ vm, ⟨.provider (.describeVm ⟨"i-1"⟩), .ok (some vm)⟩ ∈ smallCreation bootFails →
          vm.state ≠ .running) := by
  have run : (Manager.small.createVm .small).Runs (smallCreation bootFails)
      (.error (.creationFailed ⟨"i-1"⟩ _)) :=
    Stage.runs_play (show ((Stage.small bootFails).play _).1 = some _ from rfl)
  obtain ⟨params, created⟩ : ∃ params,
      ⟨.provider (.runInstance params), .ok ⟨"i-1"⟩⟩ ∈ smallCreation bootFails :=
    ⟨_, List.mem_of_getElem? (i := 5) rfl⟩
  exact ⟨_, params, run, created, createVm_terminated_iff run created⟩

/-- A VM that runs is left behind where its settings cannot be stored. -/
theorem createVm_orphan : ∃ e params,
    (Manager.small.createVm .small).Runs (smallCreation storeFails) (.error e) ∧
      ⟨.provider (.runInstance params), .ok ⟨"i-1"⟩⟩ ∈ smallCreation storeFails ∧
      ∀ answer, ⟨.provider (.terminateInstance ⟨"i-1"⟩), answer⟩ ∉ smallCreation storeFails := by
  have run : (Manager.small.createVm .small).Runs (smallCreation storeFails)
      (.error (.settings (.request "down"))) :=
    Stage.runs_play (show ((Stage.small storeFails).play _).1 = some _ from rfl)
  have kept : Action.provider (.terminateInstance ⟨"i-1"⟩) ∉
      (smallCreation storeFails).map (·.question) := by decide
  refine ⟨_, _, run, List.mem_of_getElem? (i := 5) rfl, fun answer hm => ?_⟩
  exact kept (List.mem_map.2 ⟨_, hm, rfl⟩)

end CloudLifecycle.Manager

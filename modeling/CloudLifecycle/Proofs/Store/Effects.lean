import CloudLifecycle.Proofs.Runs.Observation
import CloudLifecycle.Proofs.Store.Serves

/-!
# What the verbs do to the settings

Five verbs write settings.  Each has an inductive type of the changes that it can make, with what
the run has observed of the backend and read from the store, and a theorem that a run makes one of
them.  A verb that fails changes nothing: its one write is its last action.
-/

set_option autoImplicit false

namespace CloudLifecycle

namespace Manager

open SettingsStore

variable {m : Manager} {vmId diskId : ResourceId} {trace : Trace} {before after : SettingsStore}

/-- What attaching a disk does to the settings. -/
inductive AttachEffect (vmId diskId : ResourceId) (trace : Trace) (before : SettingsStore) :
    Except CpiError String → SettingsStore → Prop where
  | failed (e : CpiError) : AttachEffect vmId diskId trace before (.error e) before
  /-- The settings had a device for the disk already. -/
  | recorded {vm : VmInfo} {settings : AgentSettings} {device : String}
      (described : trace.FirstReply (.describeVm vmId) (some vm))
      (read : ⟨.settings (.read vm.name), .ok settings⟩ ∈ trace)
      (held : before.find? vm.name = some settings)
      (known : settings.disks.persistent.find? diskId.text = some device) :
      AttachEffect vmId diskId trace before (.ok device) before
  | attached {vm : VmInfo} {settings : AgentSettings} {device : String}
      (described : trace.FirstReply (.describeVm vmId) (some vm))
      (read : ⟨.settings (.read vm.name), .ok settings⟩ ∈ trace)
      (held : before.find? vm.name = some settings)
      (free : Device.firstFree settings.disks.persistent = some device) :
      AttachEffect vmId diskId trace before (.ok device)
        (before.update vm.name (recordDevice settings diskId device))

/-- What detaching a disk does to the settings. -/
inductive DetachEffect (vmId diskId : ResourceId) (trace : Trace) (before : SettingsStore) :
    Except CpiError Unit → SettingsStore → Prop where
  | failed (e : CpiError) : DetachEffect vmId diskId trace before (.error e) before
  /-- The settings had no device for the disk. -/
  | unrecorded {vm : VmInfo} {settings : AgentSettings}
      (described : trace.FirstReply (.describeVm vmId) (some vm))
      (held : before.find? vm.name = some settings)
      (unknown : settings.disks.persistent.find? diskId.text = none) :
      DetachEffect vmId diskId trace before (.ok ()) before
  | forgotten {vm : VmInfo} {settings : AgentSettings}
      (described : trace.FirstReply (.describeVm vmId) (some vm))
      (held : before.find? vm.name = some settings) :
      DetachEffect vmId diskId trace before (.ok ())
        (before.update vm.name (forgetDevice settings diskId))

/-- What changing the networks of a VM does to the settings. -/
inductive ConfigureEffect (vmId : ResourceId) (networks : NetworkSpec) (trace : Trace)
    (before : SettingsStore) : Except CpiError Unit → SettingsStore → Prop where
  | failed (e : CpiError) : ConfigureEffect vmId networks trace before (.error e) before
  | configured {vm : VmInfo} {settings : AgentSettings}
      (described : trace.FirstReply (.describeVm vmId) (some vm))
      (held : before.find? vm.name = some settings) :
      ConfigureEffect vmId networks trace before (.ok ())
        (before.update vm.name { settings with networks })

/-- What deleting a VM does to the settings. -/
inductive DeleteEffect (vmId : ResourceId) (trace : Trace) (before : SettingsStore) :
    Except CpiError Unit → SettingsStore → Prop where
  | failed (e : CpiError) : DeleteEffect vmId trace before (.error e) before
  /-- There was no VM, or the store had nothing to remove. -/
  | kept : DeleteEffect vmId trace before (.ok ()) before
  | dropped {vm : VmInfo} (described : trace.FirstReply (.describeVm vmId) (some vm)) :
      DeleteEffect vmId trace before (.ok ()) (before.delete vm.name)

/-- What creating a VM does to the settings. -/
inductive CreateEffect (m : Manager) (request : VmRequest) (trace : Trace)
    (before : SettingsStore) : Except CpiError ResourceId → SettingsStore → Prop where
  | failed (e : CpiError) : CreateEffect m request trace before (.error e) before
  | created {params : CreateVmParams} {id : ResourceId}
      (asked : ⟨.provider (.runInstance params), .ok id⟩ ∈ trace) :
      CreateEffect m request trace before (.ok id)
        (before.update params.name (m.initialSettings params.name request))

theorem find?_of_attachedDevice {volume : VolumeInfo} {settings : AgentSettings} {device : String}
    (h : attachedDevice vmId diskId volume settings = .ok (some device)) :
    settings.disks.persistent.find? diskId.text = some device := by
  unfold attachedDevice at h
  split at h
  · split at h
    · exact Except.ok.inj h
    · cases h
  · split at h <;> cases h

theorem calls_requestAttach (vm disk : ResourceId) :
    (m.requestAttach vm disk).Calls (· = .attachVolume disk vm) :=
  Verb.calls_mapError (Retry.calls_roundsLeft (Retry.calls_call _ (Task.calls_provider _)) _) _

/-- **Attaching a disk** changes nothing, or it records the first free device for the disk. -/
theorem attachDisk_effect {result : Except CpiError String}
    (h : (m.attachDisk vmId diskId).Runs trace result) (hs : before.Serves trace after) :
    AttachEffect vmId diskId trace before result after := by
  rcases (m.calls_requireVm vmId).serves_bind h hs with
    ⟨e, rfl, rfl⟩ | ⟨seenVm, rest, vm, rfl, hvm, h, hs⟩
  · exact .failed e
  have described := (firstReply_of_requireVm hvm).1.append rest
  rcases (m.calls_requireVolume diskId).serves_bind h hs with
    ⟨e, rfl, rfl⟩ | ⟨seenVolume, rest, volume, rfl, -, h, hs⟩
  · exact .failed e
  rcases Verb.serves_read_bind h hs with ⟨e, rfl, rfl⟩ | ⟨settings, rest, rfl, held, h, hs⟩
  · exact .failed e
  have read : ⟨.settings (.read vm.name), .ok settings⟩ ∈
      seenVm ++ (seenVolume ++ ⟨.settings (.read vm.name), .ok settings⟩ :: rest) := by simp
  rcases (Verb.calls_outcome (S := fun _ => True) _).serves_bind h hs with
    ⟨e, rfl, rfl⟩ | ⟨_, rest, known, rfl, hk, h, hs⟩
  · exact .failed e
  obtain ⟨rfl, hknown⟩ := Verb.runs_outcome_iff.1 hk
  cases known with
  | some device =>
    obtain ⟨rfl, rfl⟩ := Verb.runs_pure_iff.1 h
    cases hs
    exact .recorded described read held (find?_of_attachedDevice hknown.symm)
  | none =>
    dsimp only at h
    split at h
    · obtain ⟨rfl, rfl⟩ := Verb.runs_throw_iff.1 h
      cases hs
      exact .failed _
    · rename_i device free
      have written : (∃ e, result = .error e ∧ after = before) ∨ (result = .ok device ∧
          after = before.update vm.name (recordDevice settings diskId device)) := by
        split at h
        · rcases (calls_requestAttach vmId diskId).serves_bind h hs with
            ⟨e, rfl, rfl⟩ | ⟨_, _, _, rfl, -, h, hs⟩
          · exact .inl ⟨e, rfl, rfl⟩
          rcases (m.calls_waitVolume diskId [.inUse]).serves_bind h hs with
            ⟨e, rfl, rfl⟩ | ⟨_, _, _, rfl, -, h, hs⟩
          · exact .inl ⟨e, rfl, rfl⟩
          exact Verb.serves_update_return h hs
        · exact Verb.serves_update_return h hs
      rcases written with ⟨e, rfl, rfl⟩ | ⟨rfl, rfl⟩
      · exact .failed e
      · exact .attached described read held free

/-- **Detaching a disk** changes nothing, or it forgets the device of the disk. -/
theorem detachDisk_effect {result : Except CpiError Unit}
    (h : (m.detachDisk vmId diskId).Runs trace result) (hs : before.Serves trace after) :
    DetachEffect vmId diskId trace before result after := by
  rcases (m.calls_requireVm vmId).serves_bind h hs with
    ⟨e, rfl, rfl⟩ | ⟨seenVm, rest, vm, rfl, hvm, h, hs⟩
  · exact .failed e
  have described := (firstReply_of_requireVm hvm).1.append rest
  rcases (m.calls_requireVolume diskId).serves_bind h hs with
    ⟨e, rfl, rfl⟩ | ⟨seenVolume, rest, volume, rfl, -, h, hs⟩
  · exact .failed e
  dsimp only at h
  split at h
  · obtain ⟨rfl, rfl⟩ := Verb.runs_throw_bind_iff.1 h
    cases hs
    exact .failed _
  rcases (m.calls_call (.detachVolume diskId vmId)).serves_bind h hs with
    ⟨e, rfl, rfl⟩ | ⟨_, _, _, rfl, -, h, hs⟩
  · exact .failed e
  rcases (m.calls_waitVolume diskId [.available]).serves_bind h hs with
    ⟨e, rfl, rfl⟩ | ⟨_, _, _, rfl, -, h, hs⟩
  · exact .failed e
  rcases Verb.serves_read_bind h hs with ⟨e, rfl, rfl⟩ | ⟨settings, _, rfl, held, h, hs⟩
  · exact .failed e
  split at h
  · rcases Verb.serves_update h hs with ⟨e, rfl, rfl⟩ | ⟨rfl, rfl⟩
    · exact .failed e
    · exact .forgotten described held
  · rename_i unknown
    obtain ⟨rfl, rfl⟩ := Verb.runs_pure_iff.1 h
    cases hs
    exact .unrecorded described held (by simpa [Dict.contains] using unknown)

/-- **Changing the networks of a VM** changes nothing else in its settings. -/
theorem configureNetworks_effect {networks : NetworkSpec} {result : Except CpiError Unit}
    (h : (m.configureNetworks vmId networks).Runs trace result)
    (hs : before.Serves trace after) :
    ConfigureEffect vmId networks trace before result after := by
  rcases (m.calls_requireVm vmId).serves_bind h hs with
    ⟨e, rfl, rfl⟩ | ⟨seenVm, rest, vm, rfl, hvm, h, hs⟩
  · exact .failed e
  have described := (firstReply_of_requireVm hvm).1.append rest
  rcases (Verb.calls_outcome (S := fun _ => True) _).serves_bind h hs with
    ⟨e, rfl, rfl⟩ | ⟨_, _, roles, rfl, -, h, hs⟩
  · exact .failed e
  rcases (m.calls_resolveSecurityGroups _).serves_bind h hs with
    ⟨e, rfl, rfl⟩ | ⟨_, _, desired, rfl, -, h, hs⟩
  · exact .failed e
  dsimp only at h
  split at h
  · obtain ⟨rfl, rfl⟩ := Verb.runs_throw_bind_iff.1 h
    cases hs
    exact .failed _
  have store {rest : Trace} (h : Verb.Runs (do
        m.applyNetworks roles vm
        let settings ← Verb.settings (.read vm.name)
        Verb.settings (.update vm.name { settings with networks })) rest result)
      (hs : before.Serves rest after) :
      (∃ e, result = .error e ∧ after = before) ∨
        ∃ settings, before.find? vm.name = some settings ∧ result = .ok () ∧
          after = before.update vm.name { settings with networks } := by
    rcases (m.calls_applyNetworks roles vm).serves_bind h hs with
      ⟨e, rfl, rfl⟩ | ⟨_, _, _, rfl, -, h, hs⟩
    · exact .inl ⟨e, rfl, rfl⟩
    rcases Verb.serves_read_bind h hs with ⟨e, rfl, rfl⟩ | ⟨settings, _, rfl, held, h, hs⟩
    · exact .inl ⟨e, rfl, rfl⟩
    exact (Verb.serves_update h hs).imp_right fun ⟨hr, ha⟩ => ⟨settings, held, hr, ha⟩
  have stored : (∃ e, result = .error e ∧ after = before) ∨
      ∃ settings, before.find? vm.name = some settings ∧ result = .ok () ∧
        after = before.update vm.name { settings with networks } := by
    split at h
    · split at h
      · obtain ⟨rfl, rfl⟩ := Verb.runs_throw_bind_iff.1 h
        cases hs
        exact .inl ⟨_, rfl, rfl⟩
      · exact store h hs
    · exact store h hs
  rcases stored with ⟨e, rfl, rfl⟩ | ⟨settings, held, rfl, rfl⟩
  · exact .failed e
  · exact .configured described held

/-- Dropping settings fails without effect, and otherwise it removes them, or the store has answered
that there are none. -/
theorem serves_dropSettings {key : String} {result : Except CpiError Unit}
    (h : (dropSettings key).Runs trace result) (hs : before.Serves trace after) :
    (∃ e, result = .error e ∧ after = before) ∨
      (result = .ok () ∧
        ((⟨.settings (.delete key), .ok ()⟩ ∈ trace ∧ after = before.delete key) ∨
          ((∃ text, ⟨.settings (.delete key), .error (.notFound text)⟩ ∈ trace) ∧
            after = before))) := by
  rcases Verb.runs_tryCatch_iff.1 h with ⟨_, hd, rfl⟩ | ⟨first, rest, e, rfl, hd, h⟩
  · obtain ⟨answer, rfl, ha⟩ := Verb.runs_settings_iff.1 hd
    obtain rfl := Verb.mapError_eq_ok_iff.1 ha.symm
    rcases Verb.serves_delete hd hs with ⟨_, he, _⟩ | ⟨_, rfl⟩
    · cases he
    · exact .inr ⟨rfl, .inl ⟨List.mem_cons_self, rfl⟩⟩
  · obtain ⟨middle, hsd, hsr⟩ := serves_append_iff.1 hs
    obtain ⟨answer, rfl, ha⟩ := Verb.runs_settings_iff.1 hd
    rcases Verb.serves_delete hd hsd with ⟨cause, he, rfl⟩ | ⟨he, _⟩
    · obtain rfl : e = .settings cause := Except.error.inj he
      -- Only a report that nothing was there is taken as success.
      split at h
      · rename_i text same
        obtain rfl := CpiError.settings.inj same
        obtain ⟨rfl, rfl⟩ := Verb.runs_pure_iff.1 h
        cases hsr
        cases answer with
        | ok reply => cases ha
        | error cause =>
          obtain rfl := CpiError.settings.inj (Except.error.inj ha)
          exact .inr ⟨rfl, .inr ⟨⟨_, List.mem_cons_self⟩, rfl⟩⟩
      · obtain ⟨rfl, rfl⟩ := Verb.runs_throw_iff.1 h
        cases hsr
        exact .inl ⟨_, rfl, rfl⟩
    · cases he

/-- How the deletion of a VM went, and what it has done to the store. -/
inductive Deletion (m : Manager) (vmId : ResourceId) (before : SettingsStore) :
    Trace → Except CpiError Unit → SettingsStore → Prop where
  | failed {trace : Trace} (e : CpiError) : Deletion m vmId before trace (.error e) before
  | absent {trace : Trace} (looked : (m.describeVm vmId).Runs trace (.ok none)) :
      Deletion m vmId before trace (.ok ()) before
  /-- The VM was gone already. -/
  | passed {trace : Trace} {vm : VmInfo} (looked : (m.describeVm vmId).Runs trace (.ok (some vm)))
      (gone : vm.state.isGone = true) : Deletion m vmId before trace (.ok ()) before
  | dropped {described rest : Trace} {vm : VmInfo}
      (looked : (m.describeVm vmId).Runs described (.ok (some vm)))
      (present : vm.state.isGone = false)
      (removed : ⟨.settings (.delete vm.name), .ok ()⟩ ∈ rest) :
      Deletion m vmId before (described ++ rest) (.ok ()) (before.delete vm.name)
  /-- The store has answered that there were no settings. -/
  | unstored {described rest : Trace} {vm : VmInfo} {text : String}
      (looked : (m.describeVm vmId).Runs described (.ok (some vm)))
      (present : vm.state.isGone = false)
      (denied : ⟨.settings (.delete vm.name), .error (.notFound text)⟩ ∈ rest) :
      Deletion m vmId before (described ++ rest) (.ok ()) before

theorem deletion_of_runs {result : Except CpiError Unit}
    (h : (m.deleteVm vmId).Runs trace result) (hs : before.Serves trace after) :
    Deletion m vmId before trace result after := by
  rcases (m.calls_describeVm vmId).serves_bind h hs with
    ⟨e, rfl, rfl⟩ | ⟨described, rest, found, rfl, looked, h, hs⟩
  · exact .failed e
  cases found with
  | none =>
    obtain ⟨rfl, rfl⟩ := Verb.runs_pure_iff.1 h
    cases hs
    rw [List.append_nil]
    exact .absent looked
  | some vm =>
    dsimp only at h
    split at h
    · rename_i gone
      obtain ⟨rfl, rfl⟩ := Verb.runs_pure_iff.1 h
      cases hs
      rw [List.append_nil]
      exact .passed looked gone
    rename_i present
    rw [Bool.not_eq_true] at present
    rcases (m.calls_call (.terminateInstance vmId)).serves_bind h hs with
      ⟨e, rfl, rfl⟩ | ⟨called, _, _, rfl, -, h, hs⟩
    · exact .failed e
    rcases (m.calls_waitVm vmId [.terminated, .ceased, .noExist]).serves_bind h hs with
      ⟨e, rfl, rfl⟩ | ⟨waited, dropping, _, rfl, -, h, hs⟩
    · exact .failed e
    have later {e : Program.Event Action Action.Answer} (mem : e ∈ dropping) :
        e ∈ called ++ (waited ++ dropping) :=
      List.mem_append_right called (List.mem_append_right waited mem)
    rcases serves_dropSettings h hs with
      ⟨e, rfl, rfl⟩ | ⟨rfl, ⟨removed, rfl⟩ | ⟨⟨text, denied⟩, rfl⟩⟩
    · exact .failed e
    · exact .dropped looked present (later removed)
    · exact .unstored looked present (later denied)

/-- **Deleting a VM** changes nothing, or it removes the settings of the VM that was described. -/
theorem deleteVm_effect {result : Except CpiError Unit}
    (h : (m.deleteVm vmId).Runs trace result) (hs : before.Serves trace after) :
    DeleteEffect vmId trace before result after := by
  cases deletion_of_runs h hs with
  | failed e => exact .failed e
  | absent _ | passed _ _ | unstored _ _ _ => exact .kept
  | dropped looked _ _ => exact .dropped ((firstReply_of_describeVm looked).append _)

/-- The parameters that are put together carry the name that was given. -/
theorem name_of_prepareVm {name : String} {roles : NetworkRoles} {request : VmRequest}
    {params : CreateVmParams} (h : (m.prepareVm name roles request).Runs trace (.ok params)) :
    params.name = name := by
  obtain ⟨_, _, groups, -, -, h⟩ := Verb.runs_bind_ok_iff.1 h
  obtain ⟨_, _, _, -, -, h⟩ := Verb.runs_bind_ok_iff.1 h
  obtain ⟨_, _, image, -, -, h⟩ := Verb.runs_bind_ok_iff.1 h
  obtain ⟨_, _, _, -, -, h⟩ := Verb.runs_bind_ok_iff.1 h
  obtain ⟨_, _, pair, -, -, h⟩ := Verb.runs_bind_ok_iff.1 h
  obtain rfl := Except.ok.inj (Verb.runs_pure_iff.1 h).2
  rfl

/-- **Creating a VM** changes nothing, or it stores the initial settings of the new VM. -/
theorem createVm_effect {request : VmRequest} {result : Except CpiError ResourceId}
    (h : (m.createVm request).Runs trace result) (hs : before.Serves trace after) :
    CreateEffect m request trace before result after := by
  rcases (Verb.calls_lift (S := fun _ => True) Task.calls_freshName).serves_bind h hs with
    ⟨e, rfl, rfl⟩ | ⟨_, _, fresh, rfl, -, h, hs⟩
  · exact .failed e
  rcases (Verb.calls_outcome (S := fun _ => True) _).serves_bind h hs with
    ⟨e, rfl, rfl⟩ | ⟨_, _, roles, rfl, -, h, hs⟩
  · exact .failed e
  rcases (m.calls_prepareVm _ roles request).serves_bind h hs with
    ⟨e, rfl, rfl⟩ | ⟨_, _, params, rfl, hp, h, hs⟩
  · exact .failed e
  rcases (m.calls_call (.runInstance params)).serves_bind h hs with
    ⟨e, rfl, rfl⟩ | ⟨_, _, id, rfl, hi, h, hs⟩
  · exact .failed e
  rcases (m.calls_awaitCreated id).serves_bind h hs with
    ⟨e, rfl, rfl⟩ | ⟨_, _, _, rfl, -, h, hs⟩
  · exact .failed e
  rcases (m.calls_requireVm id).serves_bind h hs with
    ⟨e, rfl, rfl⟩ | ⟨_, _, vm, rfl, -, h, hs⟩
  · exact .failed e
  rcases (m.calls_applyNetworks roles vm).serves_bind h hs with
    ⟨e, rfl, rfl⟩ | ⟨_, _, _, rfl, -, h, hs⟩
  · exact .failed e
  rcases Verb.serves_update_return h hs with ⟨e, rfl, rfl⟩ | ⟨rfl, rfl⟩
  · exact .failed e
  · rw [← name_of_prepareVm hp]
    have asked := (firstReply_of_call (by simp) hi).mem
    exact .created (by simp [asked])

/-- Listing the disks of a VM only reads. -/
theorem getDisks_effect {result : Except CpiError (List ResourceId)}
    (h : (m.getDisks vmId).Runs trace result) (hs : before.Serves trace after) :
    after = before := by
  rcases (m.calls_requireVm vmId).serves_bind h hs with
    ⟨_, _, rfl⟩ | ⟨_, _, vm, rfl, -, h, hs⟩
  · rfl
  rcases Verb.serves_read_bind h hs with ⟨_, _, rfl⟩ | ⟨settings, _, rfl, -, h, hs⟩
  · rfl
  obtain ⟨rfl, rfl⟩ := Verb.runs_pure_iff.1 h
  cases hs
  rfl

end Manager

end CloudLifecycle

import CloudLifecycle.Proofs.Settings.FreeDevice
import CloudLifecycle.Proofs.Store.Effects
import CloudLifecycle.Proofs.Store.Stage
import Mathlib.Data.List.Nodup

/-!
# Devices of persistent disks

No two disks of a VM have the same device, and the devices of disks are those from `/dev/sdc` to
`/dev/sdz`.  `DeviceAllocation.Proper` says so of one allocation; attaching keeps it because it
gives out a device that no disk has, and everything else because it adds no device.  So all settings
that commands can leave behind are proper.
-/

set_option autoImplicit false

namespace CloudLifecycle

namespace DeviceAllocation

/-- Each disk has a device for persistent disks that no other disk has. -/
structure Proper (allocation : DeviceAllocation) : Prop where
  persistent {disk device : String} (h : allocation.find? disk = some device) :
    device ∈ Device.persistent
  injective {disk other device : String} (h : allocation.find? disk = some device)
    (ho : allocation.find? other = some device) : disk = other

namespace Proper

variable {allocation : DeviceAllocation} {disk device : String}

theorem empty : Proper Dict.empty := ⟨fun h => by simp at h, fun h => by simp at h⟩

/-- A free device can be given to a disk, also to one that had another device before. -/
theorem insert (h : allocation.Proper) (free : Device.firstFree allocation = some device) :
    Proper (Dict.insert allocation disk device) := by
  obtain ⟨usable, unused⟩ := Device.firstFree_eq_some free
  have unheld {other : String} (ho : allocation.find? other = some device) : False :=
    unused (Dict.mem_values_iff.2 ⟨other, ho⟩)
  constructor
  · intro d found hd
    rw [Dict.find?_insert] at hd
    split at hd
    · exact Option.some.inj hd ▸ usable
    · exact h.persistent hd
  · intro d d' found hd hd'
    rw [Dict.find?_insert] at hd hd'
    split at hd <;> split at hd'
    · simp [*]
    · obtain rfl := Option.some.inj hd
      exact (unheld hd').elim
    · obtain rfl := Option.some.inj hd'
      exact (unheld hd).elim
    · exact h.injective hd hd'

theorem erase (h : allocation.Proper) : Proper (Dict.erase allocation disk) := by
  have held {d found : String} (hd : (Dict.erase allocation disk).find? d = some found) :
      allocation.find? d = some found := by
    rw [Dict.find?_erase] at hd
    split at hd
    · cases hd
    · exact hd
  exact ⟨fun hd => h.persistent (held hd), fun hd hd' => h.injective (held hd) (held hd')⟩

/-- There are no more devices than letters for them. -/
theorem size_le (h : allocation.Proper) : allocation.size ≤ 24 := by
  have values_nodup : allocation.values.Nodup := by
    refine List.Nodup.map_on ?_ (Dict.nodup_entries allocation)
    rintro ⟨d, found⟩ hd ⟨d', _⟩ hd' rfl
    rw [h.injective (Dict.find?_eq_some_iff.2 hd) (Dict.find?_eq_some_iff.2 hd')]
  have among : allocation.values ⊆ Device.persistent := by
    intro found hf
    obtain ⟨d, hd⟩ := Dict.mem_values_iff.1 hf
    exact h.persistent hd
  calc allocation.size = allocation.values.length := (Dict.length_values allocation).symm
    _ ≤ Device.persistent.length := values_nodup.length_le_of_subset among
    _ = 24 := Device.length_persistent

end Proper

end DeviceAllocation

/-- The system and the ephemeral disk have their devices, and the persistent disks have proper
ones. -/
structure AgentSettings.Allocated (settings : AgentSettings) : Prop where
  system : settings.disks.system = Device.system
  ephemeral {device : String} (h : settings.disks.ephemeral = some device) :
    device = Device.ephemeral
  proper : settings.disks.persistent.Proper

namespace AgentSettings.Allocated

variable {settings : AgentSettings} {disk : ResourceId} {device : String}

theorem initialSettings (m : Manager) (name : String) (request : VmRequest) :
    Allocated (m.initialSettings name request) := by
  unfold Manager.initialSettings
  dsimp only
  split
  · exact ⟨rfl, fun h => (Option.some.inj h).symm, .empty⟩
  · exact ⟨rfl, fun h => (nomatch h), .empty⟩

theorem recordDevice (h : settings.Allocated)
    (free : Device.firstFree settings.disks.persistent = some device) :
    Allocated (Manager.recordDevice settings disk device) :=
  ⟨h.system, h.ephemeral, h.proper.insert free⟩

theorem forgetDevice (h : settings.Allocated) : Allocated (Manager.forgetDevice settings disk) :=
  ⟨h.system, h.ephemeral, h.proper.erase⟩

theorem withNetworks (h : settings.Allocated) (networks : NetworkSpec) :
    Allocated { settings with networks } :=
  ⟨h.system, h.ephemeral, h.proper⟩

end AgentSettings.Allocated

namespace SettingsStore

variable {store before after : SettingsStore} {key : String} {settings : AgentSettings}

/-- The devices of all settings are allocated properly. -/
def Allocated (store : SettingsStore) : Prop :=
  ∀ {key settings}, store.find? key = some settings → settings.Allocated

namespace Allocated

theorem update (h : store.Allocated) (hs : settings.Allocated) :
    Allocated (store.update key settings) := by
  intro k found hf
  rw [SettingsStore.update, Dict.find?_insert] at hf
  split at hf
  · exact Option.some.inj hf ▸ hs
  · exact h hf

theorem delete (h : store.Allocated) : Allocated (store.delete key) := by
  intro k found hf
  rw [SettingsStore.delete, Dict.find?_erase] at hf
  split at hf
  · cases hf
  · exact h hf

/-- A command keeps the devices allocated properly. -/
theorem perform (h : before.Allocated) {m : Manager} {command : Command} {trace : Trace}
    {result : Except CpiError Json} (run : (m.perform command).Runs trace result)
    (served : before.Serves trace after) : after.Allocated := by
  by_cases uses : command.UsesSettings
  · cases command with
    | createVm request =>
      obtain ⟨created, hv, rfl⟩ := Verb.runs_bind_pure_iff.1 run
      cases Manager.createVm_effect hv served with
      | failed e => exact h
      | created _ => exact h.update (.initialSettings _ _ _)
    | deleteVm id =>
      obtain ⟨deleted, hv, rfl⟩ := Verb.runs_bind_pure_iff.1 run
      cases Manager.deleteVm_effect hv served with
      | failed _ | kept => exact h
      | dropped _ => exact h.delete
    | configureNetworks id networks =>
      obtain ⟨configured, hv, rfl⟩ := Verb.runs_bind_pure_iff.1 run
      cases Manager.configureNetworks_effect hv served with
      | failed e => exact h
      | configured _ held => exact h.update ((h held).withNetworks networks)
    | attachDisk id disk =>
      obtain ⟨discarded, hd, rfl⟩ := Verb.runs_bind_pure_iff.1 run
      obtain ⟨attached, hv, rfl⟩ := Verb.runs_discard_iff.1 hd
      cases Manager.attachDisk_effect hv served with
      | failed _ | recorded _ _ _ _ => exact h
      | attached _ _ held free => exact h.update ((h held).recordDevice free)
    | detachDisk id disk =>
      obtain ⟨detached, hv, rfl⟩ := Verb.runs_bind_pure_iff.1 run
      cases Manager.detachDisk_effect hv served with
      | failed _ | unrecorded _ _ _ => exact h
      | forgotten _ held => exact h.update (h held).forgetDevice
    | getDisks id =>
      obtain ⟨disks, hv, rfl⟩ := Verb.runs_bind_pure_iff.1 run
      exact Manager.getDisks_effect hv served ▸ h
    | _ => exact uses.elim
  · exact (m.calls_perform uses).serves run served ▸ h

end Allocated

/-- The settings that commands leave, one after another, when there were none at first. -/
inductive Reachable : SettingsStore → Prop where
  | empty : Reachable Dict.empty
  | perform {before after : SettingsStore} {m : Manager} {command : Command} {trace : Trace}
      {result : Except CpiError Json} (earlier : Reachable before)
      (run : (m.perform command).Runs trace result) (served : before.Serves trace after) :
      Reachable after

theorem Reachable.allocated (h : store.Reachable) : store.Allocated := by
  induction h with
  | empty => exact fun hf => nomatch hf
  | perform _ run served ih => exact ih.perform run served

end SettingsStore

/-- The device that an attached disk was given is the one that the settings read have for it
afterwards. -/
theorem Manager.AttachEffect.recordedDevice {vmId diskId : ResourceId} {trace : Trace}
    {before after : SettingsStore} {device : String}
    (h : Manager.AttachEffect vmId diskId trace before (.ok device) after) :
    ∃ vm read settings, trace.FirstReply (.describeVm vmId) (some vm) ∧
      ⟨.settings (.read vm.name), .ok read⟩ ∈ trace ∧ after.find? vm.name = some settings ∧
      settings.disks.persistent.find? diskId.text = some device := by
  cases h with
  | recorded described read held known => exact ⟨_, _, _, described, read, held, known⟩
  | @attached vm settings _ described read _ _ =>
    refine ⟨vm, settings, recordDevice settings diskId device, described, read, ?_, ?_⟩
    · simp [SettingsStore.update]
    · simp [recordDevice]

/-- **Devices are never shared.**  Whatever commands have been carried out, whether they succeeded
or not and whatever they were answered, the settings of every VM have a device of its own for each
disk, of the letters from `c` to `z`, and so for 24 disks at most; and a disk that is attached next
has, in the settings that were read for it, just the device that is answered. -/
theorem SettingsStore.Reachable.distinct_devices {store : SettingsStore} (h : store.Reachable) :
    (∀ key settings, store.find? key = some settings →
      (∀ disk other device, settings.disks.persistent.find? disk = some device →
        settings.disks.persistent.find? other = some device → disk = other) ∧
      (∀ disk device, settings.disks.persistent.find? disk = some device →
        (∃ letter : Char, 'c' ≤ letter ∧ letter ≤ 'z' ∧ device = Device.path letter) ∧
          device ≠ settings.disks.system ∧ some device ≠ settings.disks.ephemeral) ∧
      settings.disks.persistent.size ≤ 24) ∧
    ∀ (m : Manager) (vmId diskId : ResourceId) (trace : Trace) (device : String)
      (after : SettingsStore), (m.attachDisk vmId diskId).Runs trace (.ok device) →
      store.Serves trace after →
      ∃ vm read settings, trace.FirstReply (.describeVm vmId) (some vm) ∧
        ⟨.settings (.read vm.name), .ok read⟩ ∈ trace ∧ after.find? vm.name = some settings ∧
        settings.disks.persistent.find? diskId.text = some device := by
  refine ⟨fun key settings held => ?_, fun m vmId diskId trace device after run served => ?_⟩
  · have allocated := h.allocated held
    refine ⟨fun _ _ _ hd ho => allocated.proper.injective hd ho, fun disk device hd => ?_,
      allocated.proper.size_le⟩
    have usable := allocated.proper.persistent hd
    refine ⟨Device.mem_persistent_iff.1 usable, ?_, ?_⟩
    · rintro rfl
      exact Device.system_not_mem_persistent (allocated.system ▸ usable)
    · intro he
      exact Device.ephemeral_not_mem_persistent (allocated.ephemeral he.symm ▸ usable)
  · exact (Manager.attachDisk_effect run served).recordedDevice

/-- The first disk of a new VM gets the first device. -/
theorem SettingsStore.Reachable.distinct_devices_withVm :
    Stage.withVm.settings.Reachable ∧ ∃ trace after,
      (Manager.small.attachDisk ⟨"i-1"⟩ ⟨"d-1"⟩).Runs trace (.ok "/dev/sdc") ∧
        Stage.withVm.settings.Serves trace after ∧
        ∃ vm read settings, trace.FirstReply (.describeVm ⟨"i-1"⟩) (some vm) ∧
          ⟨.settings (.read vm.name), .ok read⟩ ∈ trace ∧ after.find? vm.name = some settings ∧
          settings.disks.persistent.find? "d-1" = some "/dev/sdc" := by
  have created : (Manager.small.perform (.createVm .small)).Runs _ (.ok (.text "i-1")) :=
    Stage.runs_play (show ((Stage.small []).play _).1 = some _ from rfl)
  have reachable : Stage.withVm.settings.Reachable :=
    .perform .empty created (Stage.serves_events _ (Stage.small []))
  have attached : (Manager.small.attachDisk ⟨"i-1"⟩ ⟨"d-1"⟩).Runs _ (.ok "/dev/sdc") :=
    Stage.runs_play (show (Stage.withVm.play _).1 = some _ from rfl)
  have served := Stage.serves_events (Manager.small.attachDisk ⟨"i-1"⟩ ⟨"d-1"⟩).run Stage.withVm
  exact ⟨reachable, _, _, attached, served,
    reachable.distinct_devices.2 Manager.small ⟨"i-1"⟩ ⟨"d-1"⟩ _ "/dev/sdc" _ attached served⟩

end CloudLifecycle

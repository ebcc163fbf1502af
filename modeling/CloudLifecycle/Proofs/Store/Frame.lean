import CloudLifecycle.Proofs.Store.Effects
import CloudLifecycle.Proofs.Store.Stage

/-!
# What a command leaves as it is

A command that fails leaves the settings of every VM as they were.  One that succeeds changes the
settings under one name at most, and in those no more than it is about: the device of one disk, or
the networks.  Names come only with new VMs and go only with deleted ones.
-/

set_option autoImplicit false

namespace CloudLifecycle

/-- The settings differ in the device of one disk at most. -/
structure AgentSettings.DeviceFrame (disk : ResourceId) (old new : AgentSettings) : Prop where
  document : new = { old with disks := { old.disks with persistent := new.disks.persistent } }
  devices : ∀ other, other ≠ disk.text →
    new.disks.persistent.find? other = old.disks.persistent.find? other

namespace AgentSettings.DeviceFrame

variable (disk : ResourceId) (settings : AgentSettings)

theorem refl : DeviceFrame disk settings settings := ⟨rfl, fun _ _ => rfl⟩

theorem recordDevice (device : String) :
    DeviceFrame disk settings (Manager.recordDevice settings disk device) :=
  ⟨rfl, fun other h => by simp [Manager.recordDevice, h]⟩

theorem forgetDevice : DeviceFrame disk settings (Manager.forgetDevice settings disk) :=
  ⟨rfl, fun other h => by simp [Manager.forgetDevice, h]⟩

end AgentSettings.DeviceFrame

namespace SettingsStore

variable {key : String} {before after : SettingsStore}

/-- The stores hold the same under every key but one. -/
def SameExcept (key : String) (before after : SettingsStore) : Prop :=
  ∀ other, other ≠ key → after.find? other = before.find? other

theorem sameExcept_refl (key : String) (store : SettingsStore) : store.SameExcept key store :=
  fun _ _ => rfl

theorem sameExcept_update (store : SettingsStore) (key : String) (settings : AgentSettings) :
    SameExcept key store (store.update key settings) := by
  intro other h
  simp [update, h]

theorem sameExcept_delete (store : SettingsStore) (key : String) :
    SameExcept key store (store.delete key) := by
  intro other h
  simp [delete, h]

/-- The settings under one key have changed in some way, and nothing else has. -/
structure Modifies (key : String) (change : AgentSettings → AgentSettings → Prop)
    (before after : SettingsStore) : Prop where
  document : ∃ old new, before.find? key = some old ∧ after.find? key = some new ∧ change old new
  others : before.SameExcept key after

theorem modifies_refl {change : AgentSettings → AgentSettings → Prop} {settings : AgentSettings}
    (held : before.find? key = some settings) (h : change settings settings) :
    before.Modifies key change before :=
  ⟨⟨settings, settings, held, held, h⟩, sameExcept_refl key before⟩

theorem modifies_update {change : AgentSettings → AgentSettings → Prop}
    {old new : AgentSettings} (held : before.find? key = some old) (h : change old new) :
    before.Modifies key change (before.update key new) :=
  ⟨⟨old, new, held, by simp [update], h⟩, sameExcept_update before key new⟩

/-- Changing settings neither adds nor removes a key. -/
theorem Modifies.contains_eq {change : AgentSettings → AgentSettings → Prop}
    (h : before.Modifies key change after) (k : String) : after.contains k = before.contains k := by
  obtain ⟨old, new, hold, hnew, -⟩ := h.document
  by_cases hk : k = key
  · simp [Dict.contains, hk, hold, hnew]
  · simp [Dict.contains, h.others k hk]

theorem SameExcept.eq_of_contains_ne (h : before.SameExcept key after) {k : String}
    (hk : after.contains k ≠ before.contains k) : k = key :=
  Decidable.byContradiction fun hne => hk (by simp [Dict.contains, h k hne])

/-- A failure has changed nothing, and a success what it should. -/
def AllOrNothing {α : Type} (before after : SettingsStore) (change : Prop) :
    Except CpiError α → Prop
  | .error _ => after = before
  | .ok _ => change

theorem AllOrNothing.map {α β : Type} {change : Prop} {f : α → β} {result : Except CpiError α}
    (h : AllOrNothing before after change result) :
    AllOrNothing before after change (result.map f) := by
  cases result <;> exact h

end SettingsStore

namespace Command

open SettingsStore AgentSettings

variable {m : Manager} {trace : Trace} {before after : SettingsStore} {command : Command}

/-- How the settings differ after a command has succeeded, by what its run has observed. -/
def Frame (m : Manager) (trace : Trace) (before after : SettingsStore) : Command → Prop
  | .createVm request => ∃ params id,
    ⟨.provider (.runInstance params), .ok id⟩ ∈ trace ∧
      after.find? params.name = some (m.initialSettings params.name request) ∧
      before.SameExcept params.name after
  | .deleteVm id => after = before ∨ ∃ vm,
    trace.FirstReply (.describeVm id) (some vm) ∧ after.find? vm.name = none ∧
      before.SameExcept vm.name after
  | .configureNetworks id networks => ∃ vm,
    trace.FirstReply (.describeVm id) (some vm) ∧
      before.Modifies vm.name (fun old new => new = { old with networks }) after
  | .attachDisk id disk | .detachDisk id disk => ∃ vm,
    trace.FirstReply (.describeVm id) (some vm) ∧
      before.Modifies vm.name (DeviceFrame disk) after
  | _ => after = before

/-- The command adds or removes a key: the name of a VM that it created or of one it deleted. -/
inductive MovesKey (trace : Trace) : Command → String → Prop where
  | created {request : VmRequest} {params : CreateVmParams} {id : ResourceId}
      (asked : ⟨.provider (.runInstance params), .ok id⟩ ∈ trace) :
      MovesKey trace (.createVm request) params.name
  | deleted {id : ResourceId} {vm : VmInfo}
      (described : trace.FirstReply (.describeVm id) (some vm)) :
      MovesKey trace (.deleteVm id) vm.name

theorem Frame.movesKey (h : command.Frame m trace before after) {key : String}
    (hk : after.contains key ≠ before.contains key) : command.MovesKey trace key := by
  cases command with
  | createVm request =>
    obtain ⟨params, id, asked, -, others⟩ := h
    rw [others.eq_of_contains_ne hk]
    exact .created asked
  | deleteVm id =>
    rcases h with h | ⟨vm, described, -, others⟩
    · exact absurd (by rw [h]) hk
    · rw [others.eq_of_contains_ne hk]
      exact .deleted described
  | configureNetworks id networks =>
    obtain ⟨vm, -, modifies⟩ := h
    exact absurd (modifies.contains_eq key) hk
  | attachDisk id disk | detachDisk id disk =>
    obtain ⟨vm, -, modifies⟩ := h
    exact absurd (modifies.contains_eq key) hk
  | _ => exact absurd (congrArg (fun store : SettingsStore => store.contains key) h) hk

end Command

namespace Manager

open SettingsStore AgentSettings

variable {m : Manager} {vmId diskId : ResourceId} {trace : Trace} {before after : SettingsStore}

/-! ## One verb each -/

theorem AttachEffect.allOrNothing {result : Except CpiError String}
    (h : AttachEffect vmId diskId trace before result after) :
    AllOrNothing before after ((Command.attachDisk vmId diskId).Frame m trace before after)
      result := by
  cases h with
  | failed e => exact rfl
  | recorded described _ held _ => exact ⟨_, described, modifies_refl held (.refl _ _)⟩
  | attached described _ held _ => exact ⟨_, described, modifies_update held (.recordDevice _ _ _)⟩

theorem DetachEffect.allOrNothing {result : Except CpiError Unit}
    (h : DetachEffect vmId diskId trace before result after) :
    AllOrNothing before after ((Command.detachDisk vmId diskId).Frame m trace before after)
      result := by
  cases h with
  | failed e => exact rfl
  | unrecorded described held _ => exact ⟨_, described, modifies_refl held (.refl _ _)⟩
  | forgotten described held => exact ⟨_, described, modifies_update held (.forgetDevice _ _)⟩

theorem ConfigureEffect.allOrNothing {networks : NetworkSpec} {result : Except CpiError Unit}
    (h : ConfigureEffect vmId networks trace before result after) :
    AllOrNothing before after ((Command.configureNetworks vmId networks).Frame m trace before after)
      result := by
  cases h with
  | failed e => exact rfl
  | configured described held => exact ⟨_, described, modifies_update held rfl⟩

theorem DeleteEffect.allOrNothing {result : Except CpiError Unit}
    (h : DeleteEffect vmId trace before result after) :
    AllOrNothing before after ((Command.deleteVm vmId).Frame m trace before after) result := by
  cases h with
  | failed e => exact rfl
  | kept => exact .inl rfl
  | dropped described =>
    exact .inr ⟨_, described, by simp [SettingsStore.delete], sameExcept_delete _ _⟩

theorem CreateEffect.allOrNothing {request : VmRequest} {result : Except CpiError ResourceId}
    (h : CreateEffect m request trace before result after) :
    AllOrNothing before after ((Command.createVm request).Frame m trace before after) result := by
  cases h with
  | failed e => exact rfl
  | created asked =>
    exact ⟨_, _, asked, by simp [SettingsStore.update], sameExcept_update _ _ _⟩

/-! ## Every command -/

theorem perform_allOrNothing {command : Command} {result : Except CpiError Json}
    (h : (m.perform command).Runs trace result) (hs : before.Serves trace after) :
    AllOrNothing before after (command.Frame m trace before after) result := by
  have quiet (hv : (m.perform command).Calls fun _ => True)
      (frame : before = after → command.Frame m trace before after) :
      AllOrNothing before after (command.Frame m trace before after) result := by
    obtain rfl := hv.serves h hs
    cases result with
    | error e => exact rfl
    | ok _ => exact frame rfl
  cases command with
  | createVm request =>
    obtain ⟨created, hv, rfl⟩ := Verb.runs_bind_pure_iff.1 h
    exact (createVm_effect hv hs).allOrNothing.map
  | deleteVm id =>
    obtain ⟨deleted, hv, rfl⟩ := Verb.runs_bind_pure_iff.1 h
    exact (deleteVm_effect hv hs).allOrNothing.map
  | configureNetworks id networks =>
    obtain ⟨configured, hv, rfl⟩ := Verb.runs_bind_pure_iff.1 h
    exact (configureNetworks_effect hv hs).allOrNothing.map
  | attachDisk id disk =>
    obtain ⟨discarded, hd, rfl⟩ := Verb.runs_bind_pure_iff.1 h
    obtain ⟨attached, hv, rfl⟩ := Verb.runs_discard_iff.1 hd
    exact (attachDisk_effect hv hs).allOrNothing.map.map
  | detachDisk id disk =>
    obtain ⟨detached, hv, rfl⟩ := Verb.runs_bind_pure_iff.1 h
    exact (detachDisk_effect hv hs).allOrNothing.map
  | getDisks id =>
    obtain ⟨disks, hv, rfl⟩ := Verb.runs_bind_pure_iff.1 h
    obtain rfl := getDisks_effect hv hs
    cases disks <;> exact rfl
  | info | currentVmId | createStemcell _ | deleteStemcell _ | hasVm _ | rebootVm _
  | setVmMetadata | createDisk _ | deleteDisk _ | hasDisk _ | snapshotDisk _ | deleteSnapshot _ =>
    exact quiet (m.calls_perform id) Eq.symm

/-- **Commands are atomic on the settings.**  A command that fails has changed nothing, whatever the
backend answered and whichever operation of the store failed; one that succeeds has changed what it
is about and nothing else, and keys come and go only with the VMs that it created or deleted. -/
theorem perform_atomic {command : Command} {result : Except CpiError Json}
    (h : (m.perform command).Runs trace result) (hs : before.Serves trace after) :
    AllOrNothing before after
      (command.Frame m trace before after ∧
        ∀ key, after.contains key ≠ before.contains key → command.MovesKey trace key)
      result := by
  have frame := perform_allOrNothing h hs
  cases result with
  | error e => exact frame
  | ok answer => exact ⟨frame, fun key hk => frame.movesKey hk⟩

/-- The settings of a new VM change in the device of a disk that is attached to it. -/
theorem perform_atomic_attachDisk : ∃ trace after,
    (Manager.small.perform (.attachDisk ⟨"i-1"⟩ ⟨"d-1"⟩)).Runs trace (.ok .null) ∧
      Stage.withVm.settings.Serves trace after ∧
      (Command.attachDisk ⟨"i-1"⟩ ⟨"d-1"⟩).Frame Manager.small trace Stage.withVm.settings after ∧
      ∀ key, after.contains key ≠ Stage.withVm.settings.contains key →
        (Command.attachDisk ⟨"i-1"⟩ ⟨"d-1"⟩).MovesKey trace key := by
  have run : (Manager.small.perform (.attachDisk ⟨"i-1"⟩ ⟨"d-1"⟩)).Runs _ (.ok .null) :=
    Stage.runs_play (show (Stage.withVm.play _).1 = some _ from rfl)
  have served := Stage.serves_events (Manager.small.perform (.attachDisk ⟨"i-1"⟩ ⟨"d-1"⟩)).run
    Stage.withVm
  exact ⟨_, _, run, served, perform_atomic run served⟩

end Manager

end CloudLifecycle

import CloudLifecycle.Proofs.Runs.Denials
import CloudLifecycle.Proofs.Settings.FreeDevice
import CloudLifecycle.Proofs.Store.Serves

/-!
# Running out of devices

A disk that is attached to a VM needs a device, if the settings of the VM record none for it yet.
It is refused for want of one only when the search has failed, and then nothing has been done but
to look (`Manager.runs_tooManyDisks_iff`).
-/

set_option autoImplicit false

namespace CloudLifecycle

namespace Manager

open Verb

/-- Why no further disk is attached to a VM. -/
def tooManyDisks (vm : ResourceId) : CpiError :=
  .cloudError ("too many disks attached to `" ++ vm.text ++ "'")

variable {m : Manager} {vm disk : ResourceId} {trace : Trace}

theorem foreign_tooManyDisks : Foreign tooManyDisks := fun _ => trivial

/-- A disk in use is refused in other words. -/
theorem attachedDevice_ne_tooManyDisks (volume : VolumeInfo) (settings : AgentSettings)
    (full : ResourceId) : attachedDevice vm disk volume settings ≠ .error (tooManyDisks full) := by
  have other (text : String) : CpiError.cloudError ("Disk `" ++ text) ≠ tooManyDisks full := by
    intro same
    have texts := congrArg String.toList (CpiError.cloudError.inj same)
    simp [String.toList_append] at texts
  unfold attachedDevice
  split
  · split
    · exact fun h => nomatch h
    · simpa [String.append_assoc] using other _
  · split
    · simpa [String.append_assoc] using other _
    · exact fun h => nomatch h

/-- **When a disk is refused for want of a device**: the VM and the disk are there, the disk is
free, or attached to the VM and not recorded, and no device is free in the settings of the VM.
After these are read nothing else is asked for. -/
theorem runs_tooManyDisks_iff :
    (m.attachDisk vm disk).Runs trace (.error (tooManyDisks vm)) ↔
      ∃ seenVm seenVolume info volume settings,
        trace = seenVm ++ (seenVolume ++ [⟨.settings (.read info.name), .ok settings⟩]) ∧
        (m.requireVm vm).Runs seenVm (.ok info) ∧
        (m.requireVolume disk).Runs seenVolume (.ok volume) ∧
        attachedDevice vm disk volume settings = .ok none ∧
        Device.firstFree settings.disks.persistent = none := by
  have foreign := foreign_tooManyDisks
  constructor
  · intro refused
    obtain ⟨seenVm, _, info, rfl, vmSeen, refused⟩ :=
      (m.avoids_requireVm foreign fun _ h => nomatch h).runs_bind_iff.1 refused
    obtain ⟨seenVolume, _, volume, rfl, volumeSeen, refused⟩ :=
      (m.avoids_requireVolume foreign fun _ h => nomatch h).runs_bind_iff.1 refused
    obtain ⟨_, rest, settings, rfl, read, refused⟩ :=
      (avoids_settings foreign _).runs_bind_iff.1 refused
    obtain ⟨_, last, known, rfl, compared, refused⟩ :=
      (avoids_outcome (attachedDevice_ne_tooManyDisks volume settings)).runs_bind_iff.1
        refused
    obtain ⟨rfl, needs⟩ := runs_outcome_iff.1 compared
    obtain ⟨answer, rfl, answered⟩ := runs_settings_iff.1 read
    obtain rfl := mapError_eq_ok_iff.1 answered.symm
    cases known with
    | some device => cases (runs_pure_iff.1 refused).2
    | none =>
      dsimp only at refused
      split at refused
      · rename_i exhausted
        obtain ⟨rfl, -⟩ := runs_throw_iff.1 refused
        exact ⟨seenVm, seenVolume, info, volume, settings, by simp, vmSeen, volumeSeen,
          needs.symm, exhausted⟩
      · rename_i device _
        exact absurd refused (m.avoids_attachAs foreign vm disk info volume settings device _ vm)
  · rintro ⟨seenVm, seenVolume, info, volume, settings, rfl, vmSeen, volumeSeen, needs, exhausted⟩
    refine runs_bind_iff.2 (.inr ⟨seenVm, _, info, rfl, vmSeen, ?_⟩)
    refine runs_bind_iff.2 (.inr ⟨seenVolume, _, volume, rfl, volumeSeen, ?_⟩)
    have read : (Verb.settings (.read info.name)).Runs
        [⟨.settings (.read info.name), .ok settings⟩] (.ok settings) :=
      runs_settings_iff.2 ⟨.ok settings, rfl, rfl⟩
    refine runs_bind_iff.2 (.inr ⟨_, [], settings, rfl, read, ?_⟩)
    refine runs_bind_iff.2 (.inr ⟨[], [], none, rfl, runs_outcome_iff.2 ⟨rfl, needs.symm⟩, ?_⟩)
    dsimp only
    rw [exhausted]
    exact runs_throw_iff.2 ⟨rfl, rfl⟩

end Manager

/-- **Which device a disk gets, and when there is none.**  Whatever an allocation holds, the search
finds the device with the least letter from `c` to `z` whose device no disk has, and it finds none
just if each of these letters has its device in use.  These are 24 devices, so that a device is
found while fewer disks than that are recorded.  A disk is refused for want of a device just if it
needs one and the search in the settings of its VM fails, and then nothing has been asked for but
the VM, the disk and these settings. -/
theorem Device.search_exact :
    (∀ (allocation : DeviceAllocation) (device : String), firstFree allocation = some device ↔
      ∃ letter, IsLeast {letter | Free allocation letter} letter ∧ device = path letter) ∧
    (∀ allocation : DeviceAllocation, firstFree allocation = none ↔
      ∀ letter, 'c' ≤ letter → letter ≤ 'z' →
        ∃ disk, allocation.find? disk = some (path letter)) ∧
    (persistent.Nodup ∧ persistent.length = 24 ∧ ∀ device, device ∈ persistent ↔
      ∃ letter : Char, 'c' ≤ letter ∧ letter ≤ 'z' ∧ device = path letter) ∧
    (∀ allocation : DeviceAllocation, allocation.size < 24 →
      ∃ device, firstFree allocation = some device) ∧
    ∀ (m : Manager) (vm disk : ResourceId) (trace : Trace),
      (m.attachDisk vm disk).Runs trace (.error (Manager.tooManyDisks vm)) ↔
        ∃ seenVm seenVolume info volume settings,
          trace = seenVm ++ (seenVolume ++ [⟨.settings (.read info.name), .ok settings⟩]) ∧
          (m.requireVm vm).Runs seenVm (.ok info) ∧
          (m.requireVolume disk).Runs seenVolume (.ok volume) ∧
          Manager.attachedDevice vm disk volume settings = .ok none ∧
          firstFree settings.disks.persistent = none :=
  ⟨fun _ _ => firstFree_eq_some_iff, fun _ => firstFree_eq_none_iff,
    ⟨nodup_persistent, length_persistent, fun _ => mem_persistent_iff⟩,
    fun _ few => exists_firstFree few, fun _ _ _ _ => Manager.runs_tooManyDisks_iff⟩

end CloudLifecycle

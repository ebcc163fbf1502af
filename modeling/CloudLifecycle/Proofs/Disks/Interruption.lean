import CloudLifecycle.Proofs.Disks.Reattachment
import CloudLifecycle.Proofs.Store.Devices

/-!
# A detaching that was interrupted

The backend detaches a disk before the settings forget its device, with a wait in between.  A run
that fails after the backend has accepted leaves the settings as they were (`DetachInterrupted`), so
that they record a disk that is attached to nothing.

Detaching it once more does not help (`DetachRepeat.refused`): a disk that is described as attached
to nothing is refused before the settings are read.  The record, and with it the device, stays until
the disk is attached to the VM again and detached from it, which then leaves just the settings that
the interrupted run was to leave.
-/

set_option autoImplicit false

namespace CloudLifecycle.Manager

open SettingsStore

variable {m : Manager} {vm disk : ResourceId} {name : String} {trace : Trace}
  {before after : SettingsStore}

/-- A run that has the disk detached from the VM and fails afterwards, for any reason. -/
structure DetachInterrupted (m : Manager) (vm disk : ResourceId) (name : String)
    (before : SettingsStore) (trace : Trace) (after : SettingsStore) : Prop where
  run : ∃ e, (m.detachDisk vm disk).Runs trace (.error e)
  accepted : ⟨.provider (.detachVolume disk vm), .ok ()⟩ ∈ trace
  named : trace.Names vm name
  served : before.Serves trace after

/-- A run that is to detach the disk from the VM while the VM is described as present and the disk
as available and attached to nothing. -/
structure DetachRepeat (m : Manager) (vm disk : ResourceId) (name : String)
    (before : SettingsStore) (trace : Trace) (result : Except CpiError Unit)
    (after : SettingsStore) : Prop where
  run : (m.detachDisk vm disk).Runs trace result
  named : trace.Names vm name
  served : before.Serves trace after
  present : ∃ found, trace.FirstReply (.describeVm vm) (some found) ∧ found.state.isGone = false
  unattached : ∃ volume, trace.FirstReply (.describeVolume disk) (some volume) ∧
    volume.state = .available ∧ volume.attachedVm = none

/-- Wherever a run was interrupted, the settings are those from before. -/
theorem DetachInterrupted.unchanged (h : DetachInterrupted m vm disk name before trace after) :
    after = before := by
  obtain ⟨e, run⟩ := h.run
  cases detachDisk_effect run h.served with
  | failed _ => rfl

/-- **Detaching again** only looks, and is refused. -/
theorem DetachRepeat.refused {result : Except CpiError Unit}
    (h : DetachRepeat m vm disk name before trace result after) :
    result = .error (.notAttached disk vm none) ∧ after = before ∧
      ∀ e ∈ trace,
        e.question.Within fun call => call = .describeVm vm ∨ call = .describeVolume disk := by
  obtain ⟨found, seenVm, present⟩ := h.present
  obtain ⟨volume, seenVolume, available, unattached⟩ := h.unattached
  have usable : volume.state.isGone = false := by rw [available]; rfl
  obtain ⟨looked, searched, rest, rfl, hvm, hvolume, hrest⟩ :=
    runs_bind_requireBoth h.run seenVm present seenVolume usable
  have elsewhere : volume.attachedVm ≠ some vm := by simp [unattached]
  rw [if_pos elsewhere, unattached] at hrest
  obtain ⟨rfl, rfl⟩ := Verb.runs_throw_bind_iff.1 hrest
  refine ⟨rfl, ?_, ?_⟩
  · cases detachDisk_effect h.run h.served with
    | failed _ => rfl
  · rw [List.append_nil]
    exact within_requireBoth hvm hvolume

/-- The disks that are listed are those with a recorded device. -/
theorem mem_getDisks_iff {disks : List ResourceId}
    (run : (m.getDisks vm).Runs trace (.ok disks)) (named : trace.Names vm name)
    (served : before.Serves trace after) :
    disk ∈ disks ↔ before.device? name disk ≠ none := by
  obtain ⟨found, settings, described, held, rfl⟩ := disks_of_getDisks run served
  obtain rfl := named _ described.mem
  rw [device?_eq held, Option.ne_none_iff_exists', ← Dict.mem_keys_iff]
  constructor
  · intro listed
    obtain ⟨key, hkey, rfl⟩ := List.mem_map.1 listed
    exact hkey
  · exact fun recorded => List.mem_map.2 ⟨disk.text, recorded, rfl⟩

/-- A recorded device is not given to another disk. -/
theorem firstFree_ne_of_recorded {settings : AgentSettings} {device : String}
    (held : before.find? name = some settings)
    (recorded : before.device? name disk = some device) :
    Device.firstFree settings.disks.persistent ≠ some device := by
  intro free
  rw [device?_eq held] at recorded
  exact (Device.firstFree_eq_some free).2 (Dict.mem_values_iff.2 ⟨_, recorded⟩)

/-- **An interrupted detaching is not completed by repeating it.**  A run that had the disk detached
and failed is followed by another one, which finds the VM present and the disk attached to nothing.
This one is refused; it makes no calls but the two descriptions and their refreshes of the
credentials, and no operation on the store.  So after it the settings have no record of the disk
just if they had none before the first run; else the disk is listed as before and its device is not
given to another one.  Attaching the disk and detaching it again leaves just the settings that the
first run was to leave. -/
theorem interruptedDetach_repeated {again : Manager} {first second : Trace}
    {left : SettingsStore} {result : Except CpiError Unit}
    (interrupted : DetachInterrupted m vm disk name before first left)
    (repeated : DetachRepeat again vm disk name left second result after) :
    (result = .error (.notAttached disk vm none) ∧
      (∀ e ∈ second,
        e.question.Within fun call => call = .describeVm vm ∨ call = .describeVolume disk) ∧
      after = before) ∧
    ((after.device? name disk = none ↔ before.device? name disk = none) ∧
      (∀ (lister : Manager) (listing : Trace) (disks : List ResourceId) (last : SettingsStore),
        (lister.getDisks vm).Runs listing (.ok disks) → listing.Names vm name →
        after.Serves listing last → (disk ∈ disks ↔ before.device? name disk ≠ none)) ∧
      ∀ device settings, before.device? name disk = some device →
        after.find? name = some settings →
        Device.firstFree settings.disks.persistent ≠ some device) ∧
    ∀ (repair undo : Manager) (attaching detaching : Trace) (device : String)
      (middle last : SettingsStore),
      (repair.attachDisk vm disk).Runs attaching (.ok device) → attaching.Names vm name →
      after.Serves attaching middle → (undo.detachDisk vm disk).Runs detaching (.ok ()) →
      detaching.Names vm name → middle.Serves detaching last →
      last.device? name disk = none ∧
        ∃ settings, before.find? name = some settings ∧
          last = before.update name (forgetDevice settings disk) := by
  obtain rfl := interrupted.unchanged
  obtain ⟨refused, rfl, looks⟩ := repeated.refused
  refine ⟨⟨refused, looks, rfl⟩, ⟨Iff.rfl, ?_, ?_⟩, ?_⟩
  · exact fun _ _ _ _ run named served => mem_getDisks_iff run named served
  · exact fun _ _ recorded held => firstFree_ne_of_recorded held recorded
  · intro repair undo attaching detaching device middle last attach namedFirst servedFirst
      detach namedThen servedThen
    have attached := attachDisk_effect attach servedFirst
    have detached := detachDisk_effect detach servedThen
    obtain ⟨settings, held, rfl⟩ := detached.forgets attached namedFirst namedThen
    exact ⟨by rw [device?_forgetDevice held, if_pos rfl], settings, held, rfl⟩

open History

/-- The disk is detached from the first VM, and the wait for it is cancelled. -/
def detachingCancelled : Trace := [
  ⟨.provider (.describeVm ⟨"i-1"⟩), .ok (some firstVm)⟩,
  ⟨.provider (.describeVolume ⟨"d-1"⟩),
    .ok (some ⟨⟨"d-1"⟩, "disk-1", .inUse, 1, some ⟨"i-1"⟩⟩)⟩,
  ⟨.provider (.detachVolume ⟨"d-1"⟩ ⟨"i-1"⟩), .ok ()⟩,
  ⟨.clock, Duration.zero⟩,
  ⟨.cancelled, true⟩]

/-- It is to be detached once more. -/
def detachingAgain : Trace := [
  ⟨.provider (.describeVm ⟨"i-1"⟩), .ok (some firstVm)⟩,
  ⟨.provider (.describeVolume ⟨"d-1"⟩), .ok (some ⟨⟨"d-1"⟩, "disk-1", .available, 1, none⟩)⟩]

theorem detachInterrupted_cancelled : DetachInterrupted small ⟨"i-1"⟩ ⟨"d-1"⟩ "i-1" storeWithDisk
    detachingCancelled storeWithDisk := by
  refine ⟨⟨.cancelled, ?_⟩, by simp [detachingCancelled], ?_, ?_⟩
  · repeat apply Program.Runs.ask
    exact .done _
  · simp [Trace.Names, detachingCancelled, firstVm]
  · iterate 5 refine .cons (.elsewhere (by simp)) ?_
    exact .nil _

theorem detachRepeat_refused : DetachRepeat small ⟨"i-1"⟩ ⟨"d-1"⟩ "i-1" storeWithDisk
    detachingAgain (.error (.notAttached ⟨"d-1"⟩ ⟨"i-1"⟩ none)) storeWithDisk := by
  refine ⟨?_, ?_, ?_, ⟨_, .here _, rfl⟩, ⟨_, .later (by simp) (.here _), rfl, rfl⟩⟩
  · repeat apply Program.Runs.ask
    exact .done _
  · simp [Trace.Names, detachingAgain, firstVm]
  · exact .cons (.elsewhere (by simp)) (.cons (.elsewhere (by simp)) (.nil _))

/-- Every call of the second run succeeds, and the record of the disk is still there. -/
theorem interruptedDetach_keeps_record : ∃ first second result after,
    DetachInterrupted small ⟨"i-1"⟩ ⟨"d-1"⟩ "i-1" storeWithDisk first storeWithDisk ∧
      DetachRepeat small ⟨"i-1"⟩ ⟨"d-1"⟩ "i-1" storeWithDisk second result after ∧
      (∀ call cause, ⟨.provider call, .error cause⟩ ∉ second) ∧
      (∀ call cause, ⟨.settings call, .error cause⟩ ∉ second) ∧
      after.device? "i-1" ⟨"d-1"⟩ = some "/dev/sdc" := by
  refine ⟨_, _, _, _, detachInterrupted_cancelled, detachRepeat_refused, ?_, ?_, rfl⟩
  · intro call cause failed
    cases failed with
    | tail _ failed => cases failed with
      | tail _ failed => cases failed
  · simp [detachingAgain]

/-- The settings of the first VM after the disk was attached to it for the second time. -/
def secondRecorded : AgentSettings := recordDevice firstRecorded ⟨"d-1"⟩ (Device.path 'd')

/-- The disk is attached to the first VM for the second time. -/
def attachingRepair : Trace := [
  ⟨.provider (.describeVm ⟨"i-1"⟩), .ok (some firstVm)⟩,
  ⟨.provider (.describeVolume ⟨"d-1"⟩), .ok (some ⟨⟨"d-1"⟩, "disk-1", .available, 1, none⟩)⟩,
  ⟨.settings (.read "i-1"), .ok firstRecorded⟩,
  ⟨.provider (.attachVolume ⟨"d-1"⟩ ⟨"i-1"⟩), .ok ()⟩,
  ⟨.clock, Duration.zero⟩, ⟨.cancelled, false⟩, ⟨.clock, Duration.zero⟩,
  ⟨.provider (.describeVolume ⟨"d-1"⟩),
    .ok (some ⟨⟨"d-1"⟩, "disk-1", .inUse, 1, some ⟨"i-1"⟩⟩)⟩,
  ⟨.settings (.update "i-1" secondRecorded), .ok ()⟩]

/-- And it is detached from it again. -/
def detachingRepair : Trace := [
  ⟨.provider (.describeVm ⟨"i-1"⟩), .ok (some firstVm)⟩,
  ⟨.provider (.describeVolume ⟨"d-1"⟩),
    .ok (some ⟨⟨"d-1"⟩, "disk-1", .inUse, 1, some ⟨"i-1"⟩⟩)⟩,
  ⟨.provider (.detachVolume ⟨"d-1"⟩ ⟨"i-1"⟩), .ok ()⟩,
  ⟨.clock, Duration.zero⟩, ⟨.cancelled, false⟩, ⟨.clock, Duration.zero⟩,
  ⟨.provider (.describeVolume ⟨"d-1"⟩), .ok (some ⟨⟨"d-1"⟩, "disk-1", .available, 1, none⟩)⟩,
  ⟨.settings (.read "i-1"), .ok secondRecorded⟩,
  ⟨.settings (.update "i-1" (forgetDevice secondRecorded ⟨"d-1"⟩)), .ok ()⟩]

/-- A disk is detached without being forgotten, and then attached and detached again. -/
theorem interruptedDetach_repeated_cancelled : ∃ middle last : SettingsStore,
    DetachInterrupted small ⟨"i-1"⟩ ⟨"d-1"⟩ "i-1" storeWithDisk detachingCancelled storeWithDisk ∧
      DetachRepeat small ⟨"i-1"⟩ ⟨"d-1"⟩ "i-1" storeWithDisk detachingAgain
        (.error (.notAttached ⟨"d-1"⟩ ⟨"i-1"⟩ none)) storeWithDisk ∧
      (small.attachDisk ⟨"i-1"⟩ ⟨"d-1"⟩).Runs attachingRepair (.ok "/dev/sdd") ∧
      storeWithDisk.Serves attachingRepair middle ∧
      (small.detachDisk ⟨"i-1"⟩ ⟨"d-1"⟩).Runs detachingRepair (.ok ()) ∧
      middle.Serves detachingRepair last ∧ last.device? "i-1" ⟨"d-1"⟩ = none := by
  have attached : (small.attachDisk ⟨"i-1"⟩ ⟨"d-1"⟩).Runs attachingRepair (.ok "/dev/sdd") := by
    repeat apply Program.Runs.ask
    exact .done _
  have detached : (small.detachDisk ⟨"i-1"⟩ ⟨"d-1"⟩).Runs detachingRepair (.ok ()) := by
    repeat apply Program.Runs.ask
    exact .done _
  have namedFirst : attachingRepair.Names ⟨"i-1"⟩ "i-1" := by
    simp [Trace.Names, attachingRepair, firstVm]
  have namedThen : detachingRepair.Names ⟨"i-1"⟩ "i-1" := by
    simp [Trace.Names, detachingRepair, firstVm]
  have servedFirst : storeWithDisk.Serves attachingRepair
      (storeWithDisk.update "i-1" secondRecorded) := by
    refine .cons (.elsewhere (by simp)) (.cons (.elsewhere (by simp)) ?_)
    refine .cons (.read (read_eq_ok_iff.2 rfl)) ?_
    iterate 5 refine .cons (.elsewhere (by simp)) ?_
    exact .cons (.update _ _) (.nil _)
  have servedThen : (storeWithDisk.update "i-1" secondRecorded).Serves detachingRepair
      ((storeWithDisk.update "i-1" secondRecorded).update "i-1"
        (forgetDevice secondRecorded ⟨"d-1"⟩)) := by
    iterate 7 refine .cons (.elsewhere (by simp)) ?_
    exact .cons (.read (read_eq_ok_iff.2 rfl)) (.cons (.update _ _) (.nil _))
  have repaired := (interruptedDetach_repeated detachInterrupted_cancelled
    detachRepeat_refused).2.2 small small _ _ _ _ _ attached namedFirst servedFirst
      detached namedThen servedThen
  exact ⟨_, _, detachInterrupted_cancelled, detachRepeat_refused, attached, servedFirst, detached,
    servedThen, repaired.1⟩

end CloudLifecycle.Manager

import CloudLifecycle.Proofs.Dict.Bindings
import CloudLifecycle.Proofs.Disks.Records

/-!
# Attaching a disk again

A command whose answer was lost is sent once more.  Attaching is made for this: while a disk is
attached to the VM, its device is the one that the settings of the VM record, and attaching it again
answers with this device and does nothing (`Replay.recorded`).  The record stays whatever is done
with the other disks of the VM (`Meanwhile.recorded`), so that there may be any number of such
commands, at any time.

Detaching takes away what attaching has added to the settings, and nothing else.  So after both of
them the settings are the old ones, and the disk gets the same device again.
-/

set_option autoImplicit false

namespace CloudLifecycle

/-- Wherever the VM was described it had this name. -/
def Trace.Names (vm : ResourceId) (name : String) (trace : Trace) : Prop :=
  ∀ found, ⟨.provider (.describeVm vm), .ok (some found)⟩ ∈ trace → found.name = name

/-! ## Recorded devices -/

namespace SettingsStore

/-- The device that the settings under the key record for the disk. -/
def device? (store : SettingsStore) (key : String) (disk : ResourceId) : Option String :=
  (store.find? key).bind fun settings => settings.disks.persistent.find? disk.text

variable {store : SettingsStore} {name device : String} {settings : AgentSettings}
  {disk other : ResourceId}

theorem device?_eq (held : store.find? name = some settings) :
    store.device? name disk = settings.disks.persistent.find? disk.text := by
  rw [device?, held, Option.bind_some]

theorem device?_update (changed : AgentSettings) :
    (store.update name changed).device? name disk =
      changed.disks.persistent.find? disk.text :=
  device?_eq (by simp [update])

/-- A disk that is recorded leaves the devices of the others. -/
theorem device?_recordDevice (held : store.find? name = some settings) :
    (store.update name (Manager.recordDevice settings disk device)).device? name other =
      if other = disk then some device else store.device? name other := by
  rw [device?_update, device?_eq held]
  simp [Manager.recordDevice, text_eq_iff]

/-- A disk that is forgotten leaves the devices of the others. -/
theorem device?_forgetDevice (held : store.find? name = some settings) :
    (store.update name (Manager.forgetDevice settings disk)).device? name other =
      if other = disk then none else store.device? name other := by
  rw [device?_update, device?_eq held]
  simp [Manager.forgetDevice, text_eq_iff]

/-- Forgetting a disk forgets the device that it was last recorded with. -/
theorem forgetDevice_recordDevice (settings : AgentSettings) (disk : ResourceId)
    (device : String) :
    Manager.forgetDevice (Manager.recordDevice settings disk device) disk =
      Manager.forgetDevice settings disk := by
  unfold Manager.forgetDevice Manager.recordDevice
  rw [Dict.erase_insert]

theorem forgetDevice_of_unrecorded
    (unrecorded : settings.disks.persistent.find? disk.text = none) :
    Manager.forgetDevice settings disk = settings := by
  unfold Manager.forgetDevice
  rw [Dict.erase_of_absent unrecorded]

end SettingsStore

namespace Manager

open SettingsStore

variable {m : Manager} {vm disk other : ResourceId} {name device : String} {trace : Trace}
  {before after : SettingsStore}

/-- A disk that was attached is recorded with the device that is answered. -/
theorem AttachEffect.device?_eq (h : AttachEffect vm disk trace before (.ok device) after)
    (named : trace.Names vm name) : after.device? name disk = some device := by
  cases h with
  | recorded described _ held known =>
    rw [← named _ described.mem, SettingsStore.device?_eq held]
    exact known
  | attached described _ held _ =>
    rw [← named _ described.mem, device?_recordDevice held, if_pos rfl]

/-- Attaching a disk leaves the devices of the others. -/
theorem AttachEffect.device?_of_ne {result : Except CpiError String}
    (h : AttachEffect vm other trace before result after) (named : trace.Names vm name)
    (ne : disk ≠ other) : after.device? name disk = before.device? name disk := by
  cases h with
  | failed _ => rfl
  | recorded _ _ _ _ => rfl
  | attached described _ held _ =>
    rw [← named _ described.mem, device?_recordDevice held, if_neg ne]

/-- Detaching a disk leaves the devices of the others. -/
theorem DetachEffect.device?_of_ne {result : Except CpiError Unit}
    (h : DetachEffect vm other trace before result after) (named : trace.Names vm name)
    (ne : disk ≠ other) : after.device? name disk = before.device? name disk := by
  cases h with
  | failed _ => rfl
  | unrecorded _ _ _ => rfl
  | forgotten described held =>
    rw [← named _ described.mem, device?_forgetDevice held, if_neg ne]

/-- A disk without a record gets the first free device, which is recorded for it. -/
theorem AttachEffect.of_unrecorded (h : AttachEffect vm disk trace before (.ok device) after)
    (named : trace.Names vm name) (unrecorded : before.device? name disk = none) :
    ∃ settings, before.find? name = some settings ∧
      Device.firstFree settings.disks.persistent = some device ∧
      after = before.update name (recordDevice settings disk device) := by
  cases h with
  | recorded described _ held known =>
    rw [← named _ described.mem, SettingsStore.device?_eq held, known] at unrecorded
    cases unrecorded
  | @attached found settings _ described _ held free =>
    obtain rfl := named _ described.mem
    exact ⟨settings, held, free, rfl⟩

/-- Detaching a disk that is recorded forgets it. -/
theorem DetachEffect.of_recorded (h : DetachEffect vm disk trace before (.ok ()) after)
    (named : trace.Names vm name) {settings : AgentSettings}
    (held : before.find? name = some settings)
    (recorded : settings.disks.persistent.find? disk.text = some device) :
    after = before.update name (forgetDevice settings disk) := by
  cases h with
  | unrecorded described found unknown =>
    rw [named _ described.mem, held] at found
    obtain rfl := Option.some.inj found
    rw [recorded] at unknown
    cases unknown
  | forgotten described found =>
    obtain rfl := named _ described.mem
    obtain rfl := Option.some.inj (held.symm.trans found)
    rfl

/-- Detaching a disk that was attached leaves the settings from before without its record. -/
theorem DetachEffect.forgets {attaching detaching : Trace} {back : SettingsStore}
    (detached : DetachEffect vm disk detaching after (.ok ()) back)
    (attached : AttachEffect vm disk attaching before (.ok device) after)
    (namedFirst : attaching.Names vm name) (namedThen : detaching.Names vm name) :
    ∃ settings, before.find? name = some settings ∧
      back = before.update name (forgetDevice settings disk) := by
  cases attached with
  | @recorded found settings _ described _ held known =>
    obtain rfl := namedFirst _ described.mem
    exact ⟨settings, held, detached.of_recorded namedThen held known⟩
  | @attached found settings _ described _ held _ =>
    obtain rfl := namedFirst _ described.mem
    have stored : (before.update found.name (recordDevice settings disk device)).find? found.name =
        some (recordDevice settings disk device) := by simp [SettingsStore.update]
    have recorded : (recordDevice settings disk device).disks.persistent.find? disk.text =
        some device := by simp [recordDevice]
    refine ⟨settings, held, ?_⟩
    rw [detached.of_recorded namedThen stored recorded, forgetDevice_recordDevice]
    exact Dict.insert_insert before found.name _ _

/-- **Detaching undoes attaching.**  The settings are those from before a disk was attached that
had no record. -/
theorem DetachEffect.undoes {attaching detaching : Trace} {back : SettingsStore}
    (detached : DetachEffect vm disk detaching after (.ok ()) back)
    (attached : AttachEffect vm disk attaching before (.ok device) after)
    (namedFirst : attaching.Names vm name) (namedThen : detaching.Names vm name)
    (unrecorded : before.device? name disk = none) : back = before := by
  obtain ⟨settings, held, rfl⟩ := detached.forgets attached namedFirst namedThen
  rw [SettingsStore.device?_eq held] at unrecorded
  rw [forgetDevice_of_unrecorded unrecorded]
  exact Dict.insert_of_held held

/-! ## Repeated commands -/

/-- A run that attaches the disk while the VM is described as present and the disk as attached to
it, at a store in memory. -/
structure Replay (m : Manager) (vm disk : ResourceId) (name : String) (before : SettingsStore)
    (trace : Trace) (result : Except CpiError String) (after : SettingsStore) : Prop where
  run : (m.attachDisk vm disk).Runs trace result
  named : trace.Names vm name
  settings : before.Remembers trace after
  present : ∃ found, trace.FirstReply (.describeVm vm) (some found) ∧ found.state.isGone = false
  attached : ∃ volume, trace.FirstReply (.describeVolume disk) (some volume) ∧
    volume.state.isGone = false ∧ volume.attachedVm = some vm

/-- Anything that is done with the other disks of a VM, one command after another and whatever
becomes of it, and attaching the disk again. -/
inductive Meanwhile (vm disk : ResourceId) (name : String) (start : SettingsStore) :
    SettingsStore → Prop where
  | nothing : Meanwhile vm disk name start start
  | attach {before after : SettingsStore} (earlier : Meanwhile vm disk name start before)
      {m : Manager} {other : ResourceId} {trace : Trace} {result : Except CpiError String}
      (ne : disk ≠ other) (run : (m.attachDisk vm other).Runs trace result)
      (named : trace.Names vm name) (served : before.Serves trace after) :
      Meanwhile vm disk name start after
  | detach {before after : SettingsStore} (earlier : Meanwhile vm disk name start before)
      {m : Manager} {other : ResourceId} {trace : Trace} {result : Except CpiError Unit}
      (ne : disk ≠ other) (run : (m.detachDisk vm other).Runs trace result)
      (named : trace.Names vm name) (served : before.Serves trace after) :
      Meanwhile vm disk name start after
  | again {before after : SettingsStore} (earlier : Meanwhile vm disk name start before)
      {m : Manager} {trace : Trace} {result : Except CpiError String}
      (replay : Replay m vm disk name before trace result after) :
      Meanwhile vm disk name start after

/-- A disk that is attached and recorded has the recorded device. -/
theorem attachedDevice_of_attached {volume : VolumeInfo} (attached : volume.attachedVm = some vm)
    (settings : AgentSettings) :
    attachedDevice vm disk volume settings =
      .ok (settings.disks.persistent.find? disk.text) := by
  unfold attachedDevice
  rw [attached]
  exact if_pos rfl

/-- A run that finds the VM and then the disk goes on with what they were first described as. -/
theorem runs_bind_requireBoth {α : Type} {f : VmInfo → VolumeInfo → Verb α}
    {result : Except CpiError α} {found : VmInfo} {volume : VolumeInfo}
    (h : Verb.Runs (do
      let found ← m.requireVm vm
      let volume ← m.requireVolume disk
      f found volume) trace result)
    (seenVm : trace.FirstReply (.describeVm vm) (some found))
    (present : found.state.isGone = false)
    (seenVolume : trace.FirstReply (.describeVolume disk) (some volume))
    (usable : volume.state.isGone = false) :
    ∃ looked searched rest, trace = looked ++ (searched ++ rest) ∧
      (m.requireVm vm).Runs looked (.ok found) ∧
      (m.requireVolume disk).Runs searched (.ok volume) ∧ (f found volume).Runs rest result := by
  rcases Verb.runs_bind_iff.1 h with ⟨e, hvm, -⟩ | ⟨looked, rest, first, rfl, hvm, h⟩
  · cases requireVm_of_mem hvm seenVm.mem present
  obtain rfl := Option.some.inj (((firstReply_of_requireVm hvm).1.append rest).unique seenVm)
  have looking := (m.calls_requireVm vm).callsIn hvm
  rcases Verb.runs_bind_iff.1 h with ⟨e, hvolume, -⟩ | ⟨searched, rest, second, rfl, hvolume, h⟩
  · have later := (List.mem_append.1 seenVolume.mem).resolve_left
      (looking.not_mem (by simp) (by simp) _)
    cases requireVolume_of_mem hvolume later usable
  have described := (firstAnswer_of_requireBoth hvm hvolume rest).firstReply
  obtain rfl := Option.some.inj (described.unique seenVolume)
  exact ⟨looked, searched, rest, rfl, hvm, hvolume, h⟩

/-- Finding the VM and the disk only describes them. -/
theorem within_requireBoth {looked searched : Trace} {found : VmInfo} {volume : VolumeInfo}
    (hvm : (m.requireVm vm).Runs looked (.ok found))
    (hvolume : (m.requireVolume disk).Runs searched (.ok volume)) :
    ∀ e ∈ looked ++ searched,
      e.question.Within fun call => call = .describeVm vm ∨ call = .describeVolume disk := by
  intro e he
  rcases List.mem_append.1 he with he | he
  · exact ((m.calls_requireVm vm).mono fun _ => .inl).mem_of_runs hvm e he
  · exact ((m.calls_requireVolume disk).mono fun _ => .inr).mem_of_runs hvolume e he

/-- **Attaching again** answers with the recorded device, and only looks. -/
theorem Replay.recorded {result : Except CpiError String}
    (h : Replay m vm disk name before trace result after)
    (recorded : before.device? name disk = some device) :
    result = .ok device ∧ after = before ∧
      ∀ e ∈ trace, ∀ call, e.question = .provider call → call.isMutating = false := by
  obtain ⟨found, seenVm, present⟩ := h.present
  obtain ⟨volume, seenVolume, usable, attached⟩ := h.attached
  obtain ⟨looked, searched, rest, rfl, hvm, hvolume, hrest⟩ :=
    runs_bind_requireBoth h.run seenVm present seenVolume usable
  obtain rfl := h.named _ seenVm.mem
  obtain ⟨settings, held, known⟩ := Option.bind_eq_some_iff.1 recorded
  -- Both descriptions leave the store alone, so what is read is what it held before.
  obtain ⟨_, hlooked, hlater⟩ := remembers_append_iff.1 h.settings
  rw [(m.calls_requireVm vm).serves hvm hlooked.serves] at hlater
  obtain ⟨_, hsearched, hread⟩ := remembers_append_iff.1 hlater
  rw [(m.calls_requireVolume disk).serves hvolume hsearched.serves] at hread
  obtain ⟨rest, rfl, hrest, hs⟩ := Verb.remembers_read_bind hrest hread held
  rw [attachedDevice_of_attached attached, known] at hrest
  obtain ⟨rfl, rfl⟩ : rest = [] ∧ result = .ok device := Verb.runs_pure_iff.1 hrest
  cases hs
  refine ⟨rfl, rfl, fun e he call asked => ?_⟩
  rw [← List.append_assoc] at he
  rcases List.mem_append.1 he with he | he
  · have within := within_requireBoth hvm hvolume e he
    rw [asked] at within
    rcases within with rfl | rfl | rfl <;> rfl
  · rw [List.mem_singleton.1 he] at asked
    cases asked

/-- The record of a disk stays whatever is done with the others. -/
theorem Meanwhile.recorded {start later : SettingsStore}
    (h : Meanwhile vm disk name start later) (recorded : start.device? name disk = some device) :
    later.device? name disk = some device := by
  induction h with
  | nothing => exact recorded
  | attach _ ne run named served ih =>
    rw [(attachDisk_effect run served).device?_of_ne named ne, ih]
  | detach _ ne run named served ih =>
    rw [(detachDisk_effect run served).device?_of_ne named ne, ih]
  | again _ replay ih =>
    rw [(replay.recorded ih).2.1, ih]

/-- **Attaching is idempotent, and detaching undoes it.**  Take a disk that was attached, at a
backend that describes the VM by one name.  Whatever is done with the other disks of the VM then,
attaching the disk again while it is described as attached answers with the same device, changes
no settings and has nothing done at the backend, any number of times.  And if the disk had no record
before, then detaching it right away leaves just the settings from before, so that the next time it
gets the same device again. -/
theorem attachDisk_idempotent_undone (run : (m.attachDisk vm disk).Runs trace (.ok device))
    (named : trace.Names vm name) (served : before.Serves trace after) :
    (∀ (later : SettingsStore), Meanwhile vm disk name after later →
      ∀ (again : Manager) (repeated : Trace) (result : Except CpiError String)
        (last : SettingsStore), Replay again vm disk name later repeated result last →
        result = .ok device ∧ last = later ∧
          ∀ e ∈ repeated, ∀ call, e.question = .provider call → call.isMutating = false) ∧
    (before.device? name disk = none →
      ∀ (undo : Manager) (detaching : Trace) (back : SettingsStore),
        (undo.detachDisk vm disk).Runs detaching (.ok ()) → detaching.Names vm name →
        after.Serves detaching back →
        back = before ∧
          ∀ (next : Manager) (attaching : Trace) (given : String) (last : SettingsStore),
            (next.attachDisk vm disk).Runs attaching (.ok given) → attaching.Names vm name →
            back.Serves attaching last → given = device) := by
  have attached := attachDisk_effect run served
  constructor
  · intro later meanwhile again repeated result last replay
    exact replay.recorded (meanwhile.recorded (attached.device?_eq named))
  · intro unrecorded undo detaching back detached namedThen servedThen
    obtain rfl : back = before :=
      (detachDisk_effect detached servedThen).undoes attached named namedThen unrecorded
    refine ⟨rfl, fun next attaching given last run namedNext servedNext => ?_⟩
    have renewed := attachDisk_effect run servedNext
    obtain ⟨settings, held, free, -⟩ := attached.of_unrecorded named unrecorded
    obtain ⟨_, heldNext, freeNext, -⟩ := renewed.of_unrecorded namedNext unrecorded
    obtain rfl := Option.some.inj (held.symm.trans heldNext)
    exact Option.some.inj (freeNext.symm.trans free)

open History

/-- A VM that runs. -/
def firstVm : VmInfo := ⟨⟨"i-1"⟩, "i-1", .running, none, [], none⟩

/-- The settings of the first VM with the disk that it was given. -/
def storeWithDisk : SettingsStore := firstCloud.settings.update "i-1" firstRecorded

/-- The disk is attached to the first VM once more. -/
def attachingAgain : Trace := [
  ⟨.provider (.describeVm ⟨"i-1"⟩), .ok (some firstVm)⟩,
  ⟨.provider (.describeVolume ⟨"d-1"⟩),
    .ok (some ⟨⟨"d-1"⟩, "disk-1", .inUse, 1, some ⟨"i-1"⟩⟩)⟩,
  ⟨.settings (.read "i-1"), .ok firstRecorded⟩]

/-- The disk is detached from the first VM. -/
def detachingFirst : Trace := [
  ⟨.provider (.describeVm ⟨"i-1"⟩), .ok (some firstVm)⟩,
  ⟨.provider (.describeVolume ⟨"d-1"⟩),
    .ok (some ⟨⟨"d-1"⟩, "disk-1", .inUse, 1, some ⟨"i-1"⟩⟩)⟩,
  ⟨.provider (.detachVolume ⟨"d-1"⟩ ⟨"i-1"⟩), .ok ()⟩,
  ⟨.clock, Duration.zero⟩,
  ⟨.cancelled, false⟩,
  ⟨.clock, Duration.zero⟩,
  ⟨.provider (.describeVolume ⟨"d-1"⟩), .ok (some ⟨⟨"d-1"⟩, "disk-1", .available, 1, none⟩)⟩,
  ⟨.settings (.read "i-1"), .ok firstRecorded⟩,
  ⟨.settings (.update "i-1" (forgetDevice firstRecorded ⟨"d-1"⟩)), .ok ()⟩]

/-- A disk is attached to a VM without disks, and again, and then detached. -/
theorem attachDisk_idempotent_undone_first :
    (small.attachDisk ⟨"i-1"⟩ ⟨"d-1"⟩).Runs firstVisit.trace (.ok "/dev/sdc") ∧
      firstVisit.trace.Names ⟨"i-1"⟩ "i-1" ∧
      firstCloud.settings.Serves firstVisit.trace storeWithDisk ∧
      Replay small ⟨"i-1"⟩ ⟨"d-1"⟩ "i-1" storeWithDisk attachingAgain (.ok "/dev/sdc")
        storeWithDisk ∧
      (∀ e ∈ attachingAgain, ∀ call, e.question = .provider call → call.isMutating = false) ∧
      (small.detachDisk ⟨"i-1"⟩ ⟨"d-1"⟩).Runs detachingFirst (.ok ()) ∧
      storeWithDisk.Serves detachingFirst firstCloud.settings := by
  have run : (small.attachDisk ⟨"i-1"⟩ ⟨"d-1"⟩).Runs firstVisit.trace (.ok "/dev/sdc") := by
    repeat apply Program.Runs.ask
    exact .done _
  have named : firstVisit.trace.Names ⟨"i-1"⟩ "i-1" := by
    intro found described
    obtain rfl : found = firstVm := by simpa [firstVisit, firstVm] using described
    rfl
  have served : firstCloud.settings.Serves firstVisit.trace storeWithDisk :=
    takes_firstVisit.settings
  have replay : Replay small ⟨"i-1"⟩ ⟨"d-1"⟩ "i-1" storeWithDisk attachingAgain (.ok "/dev/sdc")
      storeWithDisk := by
    refine ⟨?_, ?_, ?_, ⟨_, .here _, rfl⟩, ⟨_, .later nofun (.here _), rfl, rfl⟩⟩
    · repeat apply Program.Runs.ask
      exact .done _
    · intro found described
      obtain rfl : found = firstVm := by simpa [attachingAgain] using described
      rfl
    · exact .elsewhere nofun (.elsewhere nofun (.settings (.read "i-1") (.nil _)))
  have detached : (small.detachDisk ⟨"i-1"⟩ ⟨"d-1"⟩).Runs detachingFirst (.ok ()) := by
    repeat apply Program.Runs.ask
    exact .done _
  have namedThen : detachingFirst.Names ⟨"i-1"⟩ "i-1" := by
    intro found described
    obtain rfl : found = firstVm := by simpa [detachingFirst] using described
    rfl
  have servedThen : storeWithDisk.Serves detachingFirst
      (storeWithDisk.update "i-1" (forgetDevice firstRecorded ⟨"d-1"⟩)) := by
    refine .cons (.elsewhere nofun) (.cons (.elsewhere nofun) ?_)
    refine .cons (.elsewhere nofun) (.cons (.elsewhere nofun) ?_)
    refine .cons (.elsewhere nofun) (.cons (.elsewhere nofun) (.cons (.elsewhere nofun) ?_))
    exact .cons (.read (read_eq_ok_iff.2 rfl)) (.cons (.update _ _) (.nil _))
  obtain ⟨again, undone⟩ := attachDisk_idempotent_undone run named served
  have same := undone rfl small detachingFirst _ detached namedThen servedThen
  refine ⟨run, named, served, replay, ?_, detached, same.1 ▸ servedThen⟩
  exact (again storeWithDisk .nothing small attachingAgain _ _ replay).2.2

end Manager

end CloudLifecycle

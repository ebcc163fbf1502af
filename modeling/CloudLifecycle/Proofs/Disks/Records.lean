import CloudLifecycle.Proofs.Disks.Attachments

/-!
# Recorded disks

The settings of a VM record its disks, and the backend attaches them: two stores that are changed
one after the other.  `Visit.Effect` is what the run of a command does to both, whatever becomes of
it.  A run that is interrupted leaves a disk attached without a record, or, where the disk was
detached already, recorded without being attached; everything else keeps the two in step.

Over a history of commands this gives two laws (`History.records_follow_attachments`).  The last
command that names a disk, if it succeeded, has brought record and attachment together.  And as long
as no command was interrupted after it had a disk detached, every recorded disk is attached.
-/

set_option autoImplicit false

namespace CloudLifecycle

/-! ## Records -/

namespace SettingsStore

/-- The settings under the key have a device for the disk. -/
def Records (store : SettingsStore) (key : String) (disk : ResourceId) : Prop :=
  ∃ settings, store.find? key = some settings ∧
    settings.disks.persistent.contains disk.text = true

variable {store : SettingsStore} {key name : String} {settings changed : AgentSettings}
  {disk other : ResourceId} {device : String}

theorem records_iff (held : store.find? name = some settings) :
    store.Records name disk ↔ settings.disks.persistent.contains disk.text = true := by
  constructor
  · rintro ⟨found, hfound, recorded⟩
    obtain rfl := Option.some.inj (hfound.symm.trans held)
    exact recorded
  · exact fun recorded => ⟨settings, held, recorded⟩

theorem records_update_self :
    (store.update name changed).Records name disk ↔
      changed.disks.persistent.contains disk.text = true :=
  records_iff (by simp [update])

theorem records_update_of_ne (elsewhere : key ≠ name) :
    (store.update name changed).Records key disk ↔ store.Records key disk := by
  unfold Records
  simp [update, elsewhere]

theorem text_eq_iff : other.text = disk.text ↔ other = disk := by
  cases other
  cases disk
  simp

/-- A device that is recorded adds one record. -/
theorem records_recordDevice (held : store.find? name = some settings) :
    (store.update name (Manager.recordDevice settings disk device)).Records key other ↔
      store.Records key other ∨ key = name ∧ other = disk := by
  by_cases same : key = name
  · subst same
    rw [records_update_self, records_iff held]
    by_cases this : other = disk
    · subst this
      simp [Manager.recordDevice, Dict.contains]
    · have text : other.text ≠ disk.text := fun h => this (text_eq_iff.1 h)
      simp [Manager.recordDevice, Dict.contains, text, this]
  · rw [records_update_of_ne same]
    simp [same]

/-- A device that is forgotten takes one record away. -/
theorem records_forgetDevice (held : store.find? name = some settings) :
    (store.update name (Manager.forgetDevice settings disk)).Records key other ↔
      store.Records key other ∧ ¬(key = name ∧ other = disk) := by
  by_cases same : key = name
  · subst same
    rw [records_update_self, records_iff held]
    by_cases this : other = disk
    · subst this
      simp [Manager.forgetDevice, Dict.contains]
    · have text : other.text ≠ disk.text := fun h => this (text_eq_iff.1 h)
      simp [Manager.forgetDevice, Dict.contains, text, this]
  · rw [records_update_of_ne same]
    simp [same]

/-- Other networks leave the records alone. -/
theorem records_withNetworks (held : store.find? name = some settings) (networks : NetworkSpec) :
    (store.update name { settings with networks }).Records key other ↔ store.Records key other := by
  by_cases same : key = name
  · subst same
    rw [records_update_self, records_iff held]
  · exact records_update_of_ne same

end SettingsStore

namespace Manager

open Attachments

variable {m : Manager} {names : ResourceId → String} {attached later : Attachments} {trace : Trace}
  {vmId diskId : ResourceId} {before after : SettingsStore}

/-- Attaching a disk changes no record, or it succeeds and the disk is recorded. -/
theorem AttachEffect.records {result : Except CpiError String}
    (h : AttachEffect vmId diskId trace before result after)
    (hf : attached.Follows names trace later) :
    (∃ e, result = .error e ∧ after = before) ∨ (∃ device, result = .ok device) ∧
      ∀ key other, after.Records key other ↔
        before.Records key other ∨ key = names vmId ∧ other = diskId := by
  cases h with
  | failed e => exact .inl ⟨e, rfl, rfl⟩
  | @recorded vm settings device described _ held known =>
    rw [hf.name described.mem] at held
    have recorded : before.Records (names vmId) diskId :=
      ⟨settings, held, by simp [Dict.contains, known]⟩
    refine .inr ⟨⟨device, rfl⟩, fun key other => (or_iff_left_of_imp ?_).symm⟩
    rintro ⟨rfl, rfl⟩
    exact recorded
  | @attached vm settings device described _ held _ =>
    rw [hf.name described.mem] at held ⊢
    exact .inr ⟨⟨device, rfl⟩, fun key other => SettingsStore.records_recordDevice held⟩

/-- Detaching a disk changes no record, or it succeeds and the disk is not recorded any more. -/
theorem DetachEffect.records {result : Except CpiError Unit}
    (h : DetachEffect vmId diskId trace before result after)
    (hf : attached.Follows names trace later) :
    (∃ e, result = .error e ∧ after = before) ∨ result = .ok () ∧
      ∀ key other, after.Records key other ↔
        before.Records key other ∧ ¬(key = names vmId ∧ other = diskId) := by
  cases h with
  | failed e => exact .inl ⟨e, rfl, rfl⟩
  | @unrecorded vm settings described held unknown =>
    rw [hf.name described.mem] at held
    refine .inr ⟨rfl, fun key other => (and_iff_left_of_imp ?_).symm⟩
    rintro recorded ⟨rfl, rfl⟩
    rw [SettingsStore.records_iff held] at recorded
    simp [Dict.contains, unknown] at recorded
  | @forgotten vm settings described held =>
    rw [hf.name described.mem] at held ⊢
    exact .inr ⟨rfl, fun key other => SettingsStore.records_forgetDevice held⟩

/-- Changing the networks changes no record. -/
theorem ConfigureEffect.records {networks : NetworkSpec} {result : Except CpiError Unit}
    (h : ConfigureEffect vmId networks trace before result after) (key : String)
    (disk : ResourceId) : after.Records key disk ↔ before.Records key disk := by
  cases h with
  | failed e => exact Iff.rfl
  | configured _ held => exact SettingsStore.records_withNetworks held networks

/-- The disks that are listed are the keys of what the settings record. -/
theorem disks_of_getDisks {disks : List ResourceId}
    (h : (m.getDisks vmId).Runs trace (.ok disks)) (hs : before.Serves trace after) :
    ∃ vm settings, trace.FirstReply (.describeVm vmId) (some vm) ∧
      before.find? vm.name = some settings ∧
      disks = settings.disks.persistent.keys.map .mk := by
  rcases (m.calls_requireVm vmId).serves_bind h hs with
    ⟨_, impossible, _⟩ | ⟨looked, rest, vm, rfl, hvm, hr, hrest⟩
  · cases impossible
  rcases Verb.serves_read_bind hr hrest with
    ⟨_, impossible, _⟩ | ⟨settings, _, rfl, held, hdisks, _⟩
  · cases impossible
  exact ⟨vm, settings, (firstReply_of_requireVm hvm).1.append _, held,
    Except.ok.inj (Verb.runs_pure_iff.1 hdisks).2⟩

/-- A disk that is listed is recorded. -/
theorem records_of_getDisks {disks : List ResourceId}
    (h : (m.getDisks vmId).Runs trace (.ok disks)) (hs : before.Serves trace after)
    (hf : attached.Follows names trace later) {disk : ResourceId} (listed : disk ∈ disks) :
    before.Records (names vmId) disk := by
  obtain ⟨vm, settings, described, held, rfl⟩ := disks_of_getDisks h hs
  rw [hf.name described.mem] at held
  obtain ⟨key, hkey, rfl⟩ := List.mem_map.1 listed
  obtain ⟨⟨_, device⟩, entry, rfl⟩ := List.mem_map.1 hkey
  exact ⟨settings, held, by simp [Dict.contains, Dict.find?_eq_some_iff.2 entry]⟩

end Manager

/-! ## Visits -/

/-- What the backend has attached and what the settings of the VMs say. -/
structure DiskCloud where
  attached : Attachments
  settings : SettingsStore

/-- One command that was carried out. -/
structure Visit where
  manager : Manager
  command : Command
  trace : Trace
  result : Except CpiError Json

/-- VMs neither come nor go by the command. -/
def Command.KeepsVms : Command → Prop
  | .createVm _ | .deleteVm _ => False
  | _ => True

/-- The command attaches or detaches the disk. -/
def Command.Names (disk : ResourceId) : Command → Prop
  | .attachDisk _ named | .detachDisk _ named => named = disk
  | _ => False

namespace Visit

variable {names : ResourceId → String} {visit : Visit} {before after : DiskCloud}

/-- The command runs in a cloud with a faithful backend, and leaves it as it is then. -/
structure Takes (names : ResourceId → String) (visit : Visit) (before after : DiskCloud) :
    Prop where
  keeps : visit.command.KeepsVms
  run : (visit.manager.perform visit.command).Runs visit.trace visit.result
  attached : before.attached.Follows names visit.trace after.attached
  settings : before.settings.Serves visit.trace after.settings

/-- A disk was detached, and then the command failed. -/
def Broken (visit : Visit) : Prop :=
  ∃ vm disk e, visit.command = .detachDisk vm disk ∧ visit.result = .error e ∧
    ⟨.provider (.detachVolume disk vm), .ok ()⟩ ∈ visit.trace

/-- What the run of a command does to attachments and records. -/
inductive Effect (names : ResourceId → String) (visit : Visit) (before after : DiskCloud) :
    Prop where
  /-- The command is not about disks. -/
  | elsewhere (other : ∀ disk, ¬visit.command.Names disk)
      (attached : after.attached = before.attached)
      (records : ∀ key disk, after.settings.Records key disk ↔ before.settings.Records key disk)
  /-- The disk may have been attached, which is not recorded. -/
  | unattached {vm disk : ResourceId} (command : visit.command = .attachDisk vm disk)
      {e : CpiError} (failed : visit.result = .error e)
      (attached : after.attached = before.attached ∨ before.attached disk = none ∧
        after.attached = Function.update before.attached disk (some vm))
      (settings : after.settings = before.settings)
  /-- The disk is attached and recorded. -/
  | attached {vm disk : ResourceId} (command : visit.command = .attachDisk vm disk)
      (attached : after.attached = before.attached ∨ before.attached disk = none ∧
        after.attached = Function.update before.attached disk (some vm))
      (holds : after.attached disk = some vm)
      (records : ∀ key other, after.settings.Records key other ↔
        before.settings.Records key other ∨ key = names vm ∧ other = disk)
  /-- Nothing was detached. -/
  | undetached {vm disk : ResourceId} (command : visit.command = .detachDisk vm disk)
      {e : CpiError} (failed : visit.result = .error e)
      (attached : after.attached = before.attached) (settings : after.settings = before.settings)
  /-- The disk was detached, but is still recorded. -/
  | broken {vm disk : ResourceId} (broken : visit.Broken)
      (command : visit.command = .detachDisk vm disk) {e : CpiError}
      (failed : visit.result = .error e)
      (attached : after.attached = Function.update before.attached disk none)
      (settings : after.settings = before.settings)
  /-- The disk is neither attached nor recorded. -/
  | detached {vm disk : ResourceId} (command : visit.command = .detachDisk vm disk)
      (held : before.attached disk = some vm)
      (attached : after.attached = Function.update before.attached disk none)
      (records : ∀ key other, after.settings.Records key other ↔
        before.settings.Records key other ∧ ¬(key = names vm ∧ other = disk))

/-- Attaching a disk attaches it and then records it. -/
theorem effect_attachDisk (takes : visit.Takes names before after) {vm disk : ResourceId}
    (command : visit.command = .attachDisk vm disk) : visit.Effect names before after := by
  obtain ⟨-, run, follows, serves⟩ := takes
  rw [command] at run
  obtain ⟨discarded, hd, hresult⟩ := Verb.runs_bind_pure_iff.1 run
  obtain ⟨given, hv, rfl⟩ := Verb.runs_discard_iff.1 hd
  obtain ⟨attached, holds⟩ := Manager.attachDisk_follows hv follows
  rcases (Manager.attachDisk_effect hv serves).records follows with
    ⟨e, rfl, settings⟩ | ⟨⟨device, rfl⟩, records⟩
  · exact .unattached command hresult attached settings
  · exact .attached command attached (holds device rfl) records

/-- Detaching a disk detaches it and then forgets it. -/
theorem effect_detachDisk (takes : visit.Takes names before after) {vm disk : ResourceId}
    (command : visit.command = .detachDisk vm disk) : visit.Effect names before after := by
  obtain ⟨-, run, follows, serves⟩ := takes
  rw [command] at run
  obtain ⟨given, hv, hresult⟩ := Verb.runs_bind_pure_iff.1 run
  rcases (Manager.detachDisk_effect hv serves).records follows with
    ⟨e, rfl, settings⟩ | ⟨rfl, records⟩
  · rcases Manager.detachDisk_follows hv follows with ⟨attached, -⟩ | ⟨held, attached, accepted⟩
    · exact .undetached command hresult attached settings
    · exact .broken ⟨vm, disk, e, command, hresult, accepted⟩ command hresult attached settings
  · rcases Manager.detachDisk_follows hv follows with ⟨-, e, impossible⟩ | ⟨held, attached, -⟩
    · cases impossible
    · exact .detached command held attached records

/-- **What a command does to attachments and records.** -/
theorem Takes.effect (takes : visit.Takes names before after) :
    visit.Effect names before after := by
  have quiet (other : ∀ disk, ¬visit.command.Names disk)
      (hattach : .attach ∉ visit.command.mutations) (hdetach : .detach ∉ visit.command.mutations)
      (records : ∀ key disk,
        after.settings.Records key disk ↔ before.settings.Records key disk) :
      visit.Effect names before after := by
    have issues := visit.manager.issues_perform visit.command
    have attached := Manager.follows_of_issues issues hattach hdetach takes.run takes.attached
    exact .elsewhere other attached.1 records
  cases command : visit.command with
  | attachDisk vm disk => exact effect_attachDisk takes command
  | detachDisk vm disk => exact effect_detachDisk takes command
  | createVm _ | deleteVm _ =>
    have keeps := takes.keeps
    rw [command] at keeps
    exact keeps.elim
  | configureNetworks vm networks =>
    have run := takes.run
    rw [command] at run
    obtain ⟨given, hv, -⟩ := Verb.runs_bind_pure_iff.1 run
    rw [command] at quiet
    refine quiet (fun _ => id) (by simp [Command.mutations]) (by simp [Command.mutations]) ?_
    exact (Manager.configureNetworks_effect hv takes.settings).records
  | getDisks vm =>
    have run := takes.run
    rw [command] at run
    obtain ⟨given, hv, -⟩ := Verb.runs_bind_pure_iff.1 run
    rw [command] at quiet
    refine quiet (fun _ => id) (by simp [Command.mutations]) (by simp [Command.mutations]) ?_
    intro key disk
    rw [Manager.getDisks_effect hv takes.settings]
  | info | currentVmId | createStemcell _ | deleteStemcell _ | hasVm _ | rebootVm _
  | setVmMetadata | createDisk _ | deleteDisk _ | hasDisk _ | snapshotDisk _ | deleteSnapshot _ =>
    have calls := visit.manager.calls_perform (show ¬visit.command.UsesSettings by
      rw [command]; exact id)
    rw [command] at quiet
    refine quiet (fun _ => id) (by simp [Command.mutations]) (by simp [Command.mutations]) ?_
    intro key disk
    rw [calls.serves takes.run takes.settings]

namespace Effect

/-- A command leaves the disks alone that it does not name. -/
theorem frame (h : visit.Effect names before after) {disk : ResourceId}
    (other : ¬visit.command.Names disk) :
    after.attached disk = before.attached disk ∧
      ∀ key, after.settings.Records key disk ↔ before.settings.Records key disk := by
  have named {vm named : ResourceId} (command : visit.command = .attachDisk vm named ∨
      visit.command = .detachDisk vm named) : disk ≠ named := by
    rintro rfl
    rcases command with command | command
    · exact other (command ▸ rfl)
    · exact other (command ▸ rfl)
  cases h with
  | elsewhere _ attached records => exact ⟨congrFun attached disk, fun key => records key disk⟩
  | unattached command _ attached settings =>
    refine ⟨?_, fun key => by rw [settings]⟩
    rcases attached with same | ⟨-, changed⟩
    · rw [same]
    · rw [changed, Function.update_of_ne (named (.inl command))]
  | attached command attached _ records =>
    refine ⟨?_, fun key => ?_⟩
    · rcases attached with same | ⟨-, changed⟩
      · rw [same]
      · rw [changed, Function.update_of_ne (named (.inl command))]
    · rw [records key disk]
      exact or_iff_left fun this => named (.inl command) this.2
  | undetached _ _ attached settings =>
    exact ⟨congrFun attached disk, fun key => by rw [settings]⟩
  | broken _ command _ attached settings =>
    refine ⟨?_, fun key => by rw [settings]⟩
    rw [attached, Function.update_of_ne (named (.inr command))]
  | detached command _ attached records =>
    refine ⟨?_, fun key => ?_⟩
    · rw [attached, Function.update_of_ne (named (.inr command))]
    · rw [records key disk]
      exact and_iff_left fun this => named (.inr command) this.2

/-- A command that names a disk and succeeds brings record and attachment together. -/
theorem settled (h : visit.Effect names before after) {vm disk : ResourceId} {answer : Json}
    (command : visit.command = .attachDisk vm disk ∨ visit.command = .detachDisk vm disk)
    (succeeded : visit.result = .ok answer) :
    after.settings.Records (names vm) disk ↔ after.attached disk = some vm := by
  cases h with
  | elsewhere other _ _ =>
    refine absurd ?_ (other disk)
    rcases command with command | command <;> exact command ▸ rfl
  | unattached _ failed _ _ | undetached _ failed _ _ | broken _ _ failed _ _ =>
    rw [failed] at succeeded
    cases succeeded
  | attached attach _ holds records =>
    rcases command with command | command
    · obtain ⟨rfl, rfl⟩ := Command.attachDisk.inj (attach.symm.trans command)
      exact iff_of_true ((records _ _).2 (.inr ⟨rfl, rfl⟩)) holds
    · cases attach.symm.trans command
  | detached detach _ attached records =>
    rcases command with command | command
    · cases detach.symm.trans command
    · obtain ⟨rfl, rfl⟩ := Command.detachDisk.inj (detach.symm.trans command)
      rw [attached, Function.update_self]
      exact iff_of_false (fun recorded => ((records _ _).1 recorded).2 ⟨rfl, rfl⟩) nofun

end Effect

end Visit

/-- Every disk that is recorded for the VM is attached to it. -/
def DiskCloud.Sound (names : ResourceId → String) (vm : ResourceId) (cloud : DiskCloud) : Prop :=
  ∀ disk, cloud.settings.Records (names vm) disk → cloud.attached disk = some vm

/-- A command that is not interrupted after it had a disk detached leaves no record without
attachment. -/
theorem Visit.Effect.sound {names : ResourceId → String} {visit : Visit} {before after : DiskCloud}
    (h : visit.Effect names before after) (distinct : Function.Injective names)
    (whole : ¬visit.Broken) {vm : ResourceId} (sound : before.Sound names vm) :
    after.Sound names vm := by
  -- A disk that is free, or that another VM has, is not recorded here.
  have keeps {named : ResourceId} {holder value : Option ResourceId}
      (held : before.attached named = holder) (elsewhere : holder ≠ some vm)
      {disk : ResourceId} (recorded : before.settings.Records (names vm) disk) :
      Function.update before.attached named value disk = some vm := by
    have attached := sound disk recorded
    have other : disk ≠ named := by
      rintro rfl
      exact elsewhere (held.symm.trans attached)
    rw [Function.update_of_ne other]
    exact attached
  intro disk recorded
  cases h with
  | elsewhere _ attached records =>
    rw [attached]
    exact sound disk ((records _ _).1 recorded)
  | unattached _ _ attached settings =>
    rw [settings] at recorded
    rcases attached with same | ⟨free, changed⟩
    · rw [same]
      exact sound disk recorded
    · rw [changed]
      exact keeps free nofun recorded
  | @attached holder named _ attached holds records =>
    rcases (records _ _).1 recorded with earlier | ⟨same, rfl⟩
    · rcases attached with same | ⟨free, changed⟩
      · rw [same]
        exact sound disk earlier
      · rw [changed]
        exact keeps free nofun earlier
    · rw [distinct same]
      exact holds
  | undetached _ _ attached settings =>
    rw [settings] at recorded
    rw [attached]
    exact sound disk recorded
  | broken broken _ _ _ _ => exact absurd broken whole
  | @detached holder named _ held attached records =>
    obtain ⟨earlier, unnamed⟩ := (records _ _).1 recorded
    rw [attached]
    by_cases same : holder = vm
    · subst same
      have other : disk ≠ named := fun this => unnamed ⟨rfl, this⟩
      rw [Function.update_of_ne other]
      exact sound disk earlier
    · exact keeps held (fun this => same (Option.some.inj this)) earlier

/-! ## Histories -/

/-- Commands that are carried out one after another, from the first cloud to the last. -/
inductive History (names : ResourceId → String) : DiskCloud → List Visit → DiskCloud → Prop where
  | nil (cloud : DiskCloud) : History names cloud [] cloud
  | cons {before next after : DiskCloud} {visit : Visit} {visits : List Visit}
      (takes : visit.Takes names before next) (rest : History names next visits after) :
      History names before (visit :: visits) after

namespace History

variable {names : ResourceId → String} {start cloud : DiskCloud} {visits more : List Visit}
  {vm disk : ResourceId}

theorem append (h : History names start (visits ++ more) cloud) :
    ∃ middle, History names start visits middle ∧ History names middle more cloud := by
  induction visits generalizing start with
  | nil => exact ⟨start, .nil start, h⟩
  | cons visit visits ih =>
    cases h with
    | cons takes rest =>
      obtain ⟨middle, hvisits, hmore⟩ := ih rest
      exact ⟨middle, .cons takes hvisits, hmore⟩

/-- A history leaves the disks alone that it does not name. -/
theorem frame (h : History names start visits cloud)
    (others : ∀ visit ∈ visits, ¬visit.command.Names disk) :
    cloud.attached disk = start.attached disk ∧
      ∀ key, cloud.settings.Records key disk ↔ start.settings.Records key disk := by
  induction h with
  | nil cloud => exact ⟨rfl, fun key => Iff.rfl⟩
  | @cons before next after visit visits takes _ ih =>
    obtain ⟨attached, records⟩ := takes.effect.frame (others visit List.mem_cons_self)
    obtain ⟨attachedLater, recordsLater⟩ :=
      ih fun other among => others other (List.mem_cons_of_mem visit among)
    exact ⟨attachedLater.trans attached, fun key => (recordsLater key).trans (records key)⟩

/-- A history without interrupted detachments keeps every record backed by an attachment. -/
theorem sound (h : History names start visits cloud) (distinct : Function.Injective names)
    (whole : ∀ visit ∈ visits, ¬visit.Broken) (sound : start.Sound names vm) :
    cloud.Sound names vm := by
  induction h with
  | nil cloud => exact sound
  | @cons before next after visit visits takes _ ih =>
    have next := takes.effect.sound distinct (whole visit List.mem_cons_self) sound
    exact ih (fun other among => whole other (List.mem_cons_of_mem visit among)) next

/-- **Records follow attachments.**  Take any history of commands by which VMs neither come nor go,
whatever becomes of them, at a backend that keeps to what it has accepted, and a VM without recorded
disks at first.  If the last command that names a disk was on this VM and succeeded, then the disk
is recorded exactly if it is attached.  And as long as no command failed after it had a disk
detached, the disks that are recorded, which are those that are listed, are all attached. -/
theorem records_follow_attachments (distinct : Function.Injective names)
    (h : History names start visits cloud)
    (blank : ∀ disk, ¬start.settings.Records (names vm) disk) :
    (∀ disk earlier visit later answer, visits = earlier ++ visit :: later →
      visit.command = .attachDisk vm disk ∨ visit.command = .detachDisk vm disk →
      visit.result = .ok answer → (∀ other ∈ later, ¬other.command.Names disk) →
      (cloud.settings.Records (names vm) disk ↔ cloud.attached disk = some vm)) ∧
    ((∀ visit ∈ visits, ¬visit.Broken) →
      (∀ disk, cloud.settings.Records (names vm) disk → cloud.attached disk = some vm) ∧
      ∀ (m : Manager) (trace : Trace) (disks : List ResourceId) (attached : Attachments)
        (settings : SettingsStore), (m.getDisks vm).Runs trace (.ok disks) →
        cloud.attached.Follows names trace attached → cloud.settings.Serves trace settings →
        ∀ disk ∈ disks, cloud.attached disk = some vm) := by
  constructor
  · rintro disk earlier visit later answer rfl command succeeded others
    obtain ⟨before, -, hvisit⟩ := h.append
    cases hvisit with
    | cons takes rest =>
      obtain ⟨attached, records⟩ := rest.frame others
      rw [records, attached]
      exact takes.effect.settled command succeeded
  · intro whole
    have sound : cloud.Sound names vm :=
      h.sound distinct whole fun disk recorded => absurd recorded (blank disk)
    refine ⟨sound, ?_⟩
    intro m trace disks attached settings run follows serves disk listed
    exact sound disk (Manager.records_of_getDisks run serves follows listed)

/-- A VM that is named by its id and has its settings. -/
def firstSettings : AgentSettings := .initial "i-1" "agent" Dict.empty none

/-- Its settings with one disk. -/
def firstRecorded : AgentSettings := Manager.recordDevice firstSettings ⟨"d-1"⟩ (Device.path 'c')

/-- The cloud of that VM, without disks. -/
def firstCloud : DiskCloud := ⟨fun _ => none, SettingsStore.update Dict.empty "i-1" firstSettings⟩

/-- The VM gets a disk. -/
def firstVisit : Visit where
  manager := .small
  command := .attachDisk ⟨"i-1"⟩ ⟨"d-1"⟩
  trace := [
    ⟨.provider (.describeVm ⟨"i-1"⟩), .ok (some ⟨⟨"i-1"⟩, "i-1", .running, none, [], none⟩)⟩,
    ⟨.provider (.describeVolume ⟨"d-1"⟩), .ok (some ⟨⟨"d-1"⟩, "disk-1", .available, 1, none⟩)⟩,
    ⟨.settings (.read "i-1"), .ok firstSettings⟩,
    ⟨.provider (.attachVolume ⟨"d-1"⟩ ⟨"i-1"⟩), .ok ()⟩,
    ⟨.clock, Duration.zero⟩,
    ⟨.cancelled, false⟩,
    ⟨.clock, Duration.zero⟩,
    ⟨.provider (.describeVolume ⟨"d-1"⟩),
      .ok (some ⟨⟨"d-1"⟩, "disk-1", .inUse, 1, some ⟨"i-1"⟩⟩)⟩,
    ⟨.settings (.update "i-1" firstRecorded), .ok ()⟩]
  result := .ok .null

theorem takes_firstVisit : firstVisit.Takes ResourceId.text firstCloud
    ⟨Function.update firstCloud.attached ⟨"d-1"⟩ (some ⟨"i-1"⟩),
      firstCloud.settings.update "i-1" firstRecorded⟩ := by
  refine ⟨trivial, ?_, ?_, ?_⟩
  · repeat apply Program.Runs.ask
    exact .done _
  · have silent {attached : Attachments} {c : Action} {answer : c.Answer}
        (vm : ∀ id, c ≠ .provider (.describeVm id))
        (volume : ∀ id, c ≠ .provider (.describeVolume id)) :
        attached.Tells ResourceId.text ⟨c, answer⟩ := Attachments.tells_of_silent vm volume
    refine .cons (Attachments.tells_vm rfl) (.cons (Attachments.tells_volume rfl) ?_)
    refine .cons (silent nofun nofun) (.cons (silent nofun nofun) ?_)
    rw [Attachments.after_attach]
    refine .cons (silent nofun nofun) (.cons (silent nofun nofun) ?_)
    refine .cons (silent nofun nofun) (.cons (Attachments.tells_volume rfl) ?_)
    refine .cons (silent nofun nofun) ?_
    simp only [Attachments.after]
    exact .nil _
  · refine .cons (.elsewhere nofun) (.cons (.elsewhere nofun) ?_)
    refine .cons (.read (SettingsStore.read_eq_ok_iff.2 rfl)) ?_
    refine .cons (.elsewhere nofun) (.cons (.elsewhere nofun) ?_)
    refine .cons (.elsewhere nofun) (.cons (.elsewhere nofun) ?_)
    exact .cons (.elsewhere nofun) (.cons (.update _ _) (.nil _))

/-- A VM gets its first disk. -/
theorem records_follow_attachments_first :
    Function.Injective ResourceId.text ∧
      ∃ cloud, History ResourceId.text firstCloud [firstVisit] cloud ∧
        (∀ disk, ¬firstCloud.settings.Records "i-1" disk) ∧
        (cloud.settings.Records "i-1" ⟨"d-1"⟩ ↔ cloud.attached ⟨"d-1"⟩ = some ⟨"i-1"⟩) ∧
        ∀ disk, cloud.settings.Records "i-1" disk → cloud.attached disk = some ⟨"i-1"⟩ := by
  have distinct : Function.Injective ResourceId.text := fun _ _ => SettingsStore.text_eq_iff.1
  have blank : ∀ disk, ¬firstCloud.settings.Records "i-1" disk := by
    intro disk known
    rw [firstCloud, SettingsStore.records_update_self] at known
    cases known
  have history := History.cons takes_firstVisit (.nil _)
  have laws := records_follow_attachments distinct history
    (show ∀ disk, ¬firstCloud.settings.Records (ResourceId.text ⟨"i-1"⟩) disk from blank)
  refine ⟨distinct, _, history, blank, ?_, ?_⟩
  · have last : ∀ other ∈ ([] : List Visit), ¬other.command.Names ⟨"d-1"⟩ :=
      fun other among => absurd among List.not_mem_nil
    exact laws.1 ⟨"d-1"⟩ [] firstVisit [] .null rfl (.inl rfl) rfl last
  · refine (laws.2 fun other among => ?_).1
    rw [List.mem_singleton.1 among]
    rintro ⟨_, _, e, _, impossible, _⟩
    cases impossible

end History

end CloudLifecycle

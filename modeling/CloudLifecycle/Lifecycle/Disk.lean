import CloudLifecycle.Lifecycle.Manager

/-!
# Verbs on disks

A disk is attached to at most one VM, whose settings record the device that it got.  Attaching a
disk again finds the record; an attachment that was made but not recorded is recorded.  A volume
that is not ready yet is tried again for a while.
-/

set_option autoImplicit false

namespace CloudLifecycle.Manager

variable (m : Manager)

/-- Rounds that are made to attach a volume which is not ready. -/
def attachRounds : Nat := 15

/-- The pause between two of them. -/
def attachPause : Duration := Duration.ofSeconds 2

/-- Creates a disk of some size in MiB. -/
def createDisk (sizeMib : Nat) : Verb ResourceId := do
  let sizeGib ← ExceptT.mk (pure (m.options.diskPolicy.validate sizeMib))
  let name := "disk-" ++ (← Task.freshName)
  let id ← m.call (.createVolume ⟨name, sizeGib, m.options.availabilityZone⟩)
  m.waitVolume id [.available]
  return id

/-- Deletes a disk that is attached to no VM; an absent disk is passed over. -/
def deleteDisk (id : ResourceId) : Verb Unit := do
  match ← m.describeVolume id with
  | none => return ()
  | some volume =>
    if volume.state.isGone then return ()
    if volume.state ≠ .available then
      throw (.cloudError ("Cannot delete volume `" ++ id.text ++ "', state is "
        ++ volume.state.text))
    m.call (.deleteVolume id)
    m.waitVolume id [.deleted, .ceased, .noExist]

/-- The disk exists. -/
def hasDisk (id : ResourceId) : Verb Bool := do
  return (← m.describeVolume id).any fun volume => !volume.state.isGone

/-- The failure of an attach call that is worth another round. -/
def isConflict : ProviderError → Bool
  | .conflict _ => true
  | _ => false

/-- Asks for a disk to be attached, round after round while it is not ready. -/
def requestAttach (vm disk : ResourceId) : Verb Unit := ExceptT.mk do
  return (← Retry.rounds attachRounds attachPause isConflict
    (Retry.call m.options.retry (Task.provider (.attachVolume disk vm)))).mapError .provider

/-- The device that a disk has by the settings of its VM, if the disk is attached to this VM
already; fails if it is attached to another one. -/
def attachedDevice (vm disk : ResourceId) (volume : VolumeInfo) (settings : AgentSettings) :
    Except CpiError (Option String) :=
  match volume.attachedVm with
  | some holder =>
    if holder = vm then .ok (settings.disks.persistent.find? disk.text)
    else .error (.cloudError ("Disk `" ++ disk.text ++ "' is in use by `" ++ holder.text ++ "'"))
  | none =>
    if volume.state = .inUse then .error (.cloudError ("Disk `" ++ disk.text ++ "' is in use"))
    else .ok none

/-- The settings with a device for a disk. -/
def recordDevice (settings : AgentSettings) (disk : ResourceId) (device : String) : AgentSettings :=
  { settings with disks := { settings.disks with
      persistent := settings.disks.persistent.insert disk.text device } }

/-- The settings without a device for a disk. -/
def forgetDevice (settings : AgentSettings) (disk : ResourceId) : AgentSettings :=
  { settings with disks := { settings.disks with
      persistent := settings.disks.persistent.erase disk.text } }

/-- Attaches a disk to a VM and gives its device. -/
def attachDisk (vmId diskId : ResourceId) : Verb String := do
  let vm ← m.requireVm vmId
  let volume ← m.requireVolume diskId
  let settings ← Verb.settings (.read vm.name)
  match ← ExceptT.mk (pure (attachedDevice vmId diskId volume settings)) with
  | some device => return device
  | none =>
    match Device.firstFree settings.disks.persistent with
    | none => throw (.cloudError ("too many disks attached to `" ++ vmId.text ++ "'"))
    | some device =>
      if volume.attachedVm.isNone then
        m.requestAttach vmId diskId
        m.waitVolume diskId [.inUse]
      Verb.settings (.update vm.name (recordDevice settings diskId device))
      return device

/-- Detaches a disk from its VM and forgets its device. -/
def detachDisk (vmId diskId : ResourceId) : Verb Unit := do
  let vm ← m.requireVm vmId
  let volume ← m.requireVolume diskId
  if volume.attachedVm ≠ some vmId then
    throw (.notAttached diskId vmId volume.attachedVm)
  m.call (.detachVolume diskId vmId)
  m.waitVolume diskId [.available]
  let settings ← Verb.settings (.read vm.name)
  if settings.disks.persistent.contains diskId.text then
    Verb.settings (.update vm.name (forgetDevice settings diskId))

/-- The disks that the settings of a VM record. -/
def getDisks (vmId : ResourceId) : Verb (List ResourceId) := do
  let vm ← m.requireVm vmId
  let settings ← Verb.settings (.read vm.name)
  return settings.disks.persistent.keys.map .mk

end CloudLifecycle.Manager

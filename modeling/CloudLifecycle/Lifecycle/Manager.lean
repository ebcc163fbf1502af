import CloudLifecycle.Lifecycle.DiskSize
import CloudLifecycle.Lifecycle.Retry
import CloudLifecycle.Lifecycle.Wait

/-!
# The lifecycle manager

A `Manager` holds what stays the same over all requests: the backend, the address of the registry
and the options.  Here are the steps that verbs are made of: calls to the backend with their
repetitions, operations on the settings store, looking up a resource that has to exist, and
waiting for a state.
-/

set_option autoImplicit false

namespace CloudLifecycle

/-- What a backend says about itself. -/
structure Backend where
  name : String
  /-- The region or zone that the backend works in. -/
  region : String
  /-- The most security groups that a VM can be in, if there is a limit. -/
  maxSecurityGroups : Option Nat
deriving DecidableEq, Repr

/-- Settings of the manager that do not depend on the backend. -/
structure LifecycleOptions where
  availabilityZone : Option String
  defaultKeyName : Option String
  defaultSecurityGroups : List String
  waiter : Waiter
  diskPolicy : DiskSizePolicy
  retry : RetryPolicy
  /-- VMs come with a local ephemeral disk. -/
  ephemeralDisk : Bool
  /-- Properties that go into the settings of every new VM. -/
  agentProperties : Dict Json
deriving DecidableEq

/-- What stays the same over all requests. -/
structure Manager where
  backend : Backend
  /-- The address of the registry, as agents get to know it. -/
  registryEndpoint : String
  options : LifecycleOptions
  /-- There is a metadata service that knows the machine's own id. -/
  knowsSelf : Bool
deriving DecidableEq

/-- Does an operation on the settings store. -/
def Verb.settings (c : SettingsCall) : Verb c.Reply := ExceptT.mk do
  return (← Task.settings c).mapError .settings

namespace Manager

variable (m : Manager)

/-- Makes a call to the backend. -/
def call (c : ProviderCall) : Verb c.Reply := ExceptT.mk do
  return (← Retry.call m.options.retry (Task.provider c)).mapError .provider

def describeVm (id : ResourceId) : Verb (Option VmInfo) := ExceptT.mk do
  return (← Retry.describe m.options.retry (Task.provider (.describeVm id))).mapError .provider

def describeVolume (id : ResourceId) : Verb (Option VolumeInfo) := ExceptT.mk do
  return (← Retry.describe m.options.retry (Task.provider (.describeVolume id))).mapError .provider

def describeSnapshot (id : ResourceId) : Verb (Option SnapshotInfo) := ExceptT.mk do
  return (← Retry.describe m.options.retry (Task.provider (.describeSnapshot id))).mapError
    .provider

def describeImage (id : ResourceId) : Verb (Option ImageInfo) := ExceptT.mk do
  return (← Retry.describe m.options.retry (Task.provider (.describeImage id))).mapError .provider

def describeFloatingIp (address : String) : Verb (Option FloatingIpInfo) := ExceptT.mk do
  return (← Retry.describe m.options.retry
    (Task.provider (.describeFloatingIp address))).mapError .provider

/-- The VM, which has to exist. -/
def requireVm (id : ResourceId) : Verb VmInfo := do
  match ← m.describeVm id with
  | some vm => if vm.state.isGone then throw (.notFound .vm id.text) else return vm
  | none => throw (.notFound .vm id.text)

/-- The volume, which has to exist. -/
def requireVolume (id : ResourceId) : Verb VolumeInfo := do
  match ← m.describeVolume id with
  | some volume => if volume.state.isGone then throw (.notFound .volume id.text) else return volume
  | none => throw (.notFound .volume id.text)

/-- The image, which has to exist. -/
def requireImage (id : ResourceId) : Verb ImageInfo := do
  match ← m.describeImage id with
  | some image => return image
  | none => throw (.notFound .image id.text)

/-- The state of a VM, also of one that is not listed. -/
def vmState (id : ResourceId) : Verb VmState := do
  return ((← m.describeVm id).map (·.state)).getD IsState.absent

def volumeState (id : ResourceId) : Verb VolumeState := do
  return ((← m.describeVolume id).map (·.state)).getD IsState.absent

def snapshotState (id : ResourceId) : Verb SnapshotState := do
  return ((← m.describeSnapshot id).map (·.state)).getD IsState.absent

/-- Waits for a state of a VM. -/
def waitVm (id : ResourceId) (targets : List VmState) : Verb Unit :=
  discard (m.options.waiter.wait .vm id.text targets (m.vmState id))

/-- Waits for a state of a volume. -/
def waitVolume (id : ResourceId) (targets : List VolumeState) : Verb Unit :=
  discard (m.options.waiter.wait .volume id.text targets (m.volumeState id))

/-- Waits for a state of a snapshot. -/
def waitSnapshot (id : ResourceId) (targets : List SnapshotState) : Verb Unit :=
  discard (m.options.waiter.wait .snapshot id.text targets (m.snapshotState id))

end Manager

end CloudLifecycle

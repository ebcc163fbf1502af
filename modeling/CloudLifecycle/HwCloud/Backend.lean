import CloudLifecycle.HwCloud.Account
import CloudLifecycle.HwCloud.Answer
import CloudLifecycle.Lifecycle.Manager

/-!
# HwCloud as a backend

`HwCloud.perform` makes a call to the backend out of actions of HwCloud.  A VM takes any number of
security groups; its subnet and its fixed address are requested with it; and all regions offer the
same instance types.
-/

set_option autoImplicit false

namespace CloudLifecycle

/-- A backend at HwCloud. -/
structure HwCloud where
  account : HwCloudAccount
  /-- The zone of what is created without one. -/
  availabilityZone : Option String
  instanceTypes : List String
deriving DecidableEq

namespace HwCloud

/-- The instance types that are offered without configuration. -/
def defaultInstanceTypes : List String :=
  ["m1.tiny", "m1.small", "m1.medium", "m1.large", "m1.xlarge"]

variable (cloud : HwCloud)

/-- What the backend says about itself. -/
def description : Backend := ⟨"hwcloud", cloud.account.settings.regionName, none⟩

/-- Does an action. -/
def call {α : Type} (action : String) (q : Query) (d : Decoder α) : Web (ProviderResult α) := do
  return (← cloud.account.call action q d).mapError HwCloudError.toProviderError

/-- The things that an action describes; an id that is unknown describes none. -/
def describeAll {α : Type} (action : String) (q : Query) (d : Decoder (List α)) :
    Web (ProviderResult (List α)) := do
  match ← cloud.call action q d with
  | .error (.notFound _) => return .ok []
  | other => return other

/-- The first of the things that an action describes. -/
def describe {α : Type} (action : String) (q : Query) (d : Decoder (List α)) :
    Web (ProviderResult (Option α)) := do
  return (← cloud.describeAll action q d).map (·.head?)

/-- The things that an action describes, as far as they are wanted. -/
def search {α : Type} (action : String) (q : Query) (d : Decoder (List α)) (wanted : α → Bool) :
    Web (ProviderResult (List α)) := do
  return (← cloud.call action q d).map (·.filter wanted)

/-- Does an action that gives nothing of interest. -/
def order (action : String) (q : Query) : Web (ProviderResult Unit) :=
  cloud.call action q HwCloudAnswer.acknowledged

/-- The zone that a request names, or that of the configuration. -/
def zone (requested : Option String) : Option String := requested.or cloud.availabilityZone

/-- The parameters of a request for a new VM. -/
def vmQuery (params : CreateVmParams) : Query :=
  Query.empty.set "ImageId" params.imageId.text
    |>.set "InstanceType" params.instanceType
    |>.set "InstanceName" params.name
    |>.set "MinCount" "1"
    |>.set "MaxCount" "1"
    |>.set "KeyName" params.keyPair.id.text
    |>.setOption "SubnetId" params.netId
    |>.setOption "PrivateIpAddress" params.fixedIp
    |>.setOption "Placement.AvailabilityZone" (cloud.zone params.availabilityZone)
    |>.set "UserData" params.userData
    |>.indexed "SecurityGroupId" params.securityGroups

/-- The parameters of a request for a new volume. -/
def volumeQuery (params : CreateVolumeParams) : Query :=
  Query.empty.set "Size" params.sizeGib.repr
    |>.set "VolumeName" params.name
    |>.setOption "AvailabilityZone" (cloud.zone params.availabilityZone)

/-- The id of a new VM. -/
def newVmId : List VmInfo → ProviderResult ResourceId
  | vm :: _ => .ok vm.id
  | [] => .error (.decode "RunInstances returned no instance")

/-- A list of one value. -/
def only (name value : String) : Query := Query.empty.indexed name [value]

/-- One value. -/
def single (name value : String) : Query := Query.empty.set name value

/-- Creates a VM. -/
def runInstance (params : CreateVmParams) : Web (ProviderResult ResourceId) := do
  return (← cloud.call "RunInstances" (cloud.vmQuery params) HwCloudAnswer.vms).bind newVmId

/-- The floating address that is asked for, among those that are described. -/
def findAddress (address : String) : Web (ProviderResult (Option FloatingIpInfo)) := do
  return (← cloud.describeAll "DescribeAddresses" (only "PublicIp" address)
    HwCloudAnswer.floatingIps).map (·.find? (·.address = address))

/-- Makes a call to the backend. -/
def perform : (c : ProviderCall) → Web (ProviderResult c.Reply)
  | .refreshCredentials => pure (.ok ())
  | .describeVm id =>
    cloud.describe "DescribeInstances" (only "InstanceId" id.text) HwCloudAnswer.vms
  | .describeVolume id =>
    cloud.describe "DescribeVolumes" (only "VolumeId" id.text) HwCloudAnswer.volumes
  | .describeSnapshot id =>
    cloud.describe "DescribeSnapshots" (only "SnapshotId" id.text) HwCloudAnswer.snapshots
  | .describeImage id =>
    cloud.describe "DescribeImages" (only "ImageId" id.text) HwCloudAnswer.images
  | .describeFloatingIp address => cloud.findAddress address
  | .findImageByName name =>
    cloud.search "DescribeImages"
      ((single "Filter[0].Name" "name").indexed "Filter[0].Value" [name])
      HwCloudAnswer.images fun image => image.name = name
  | .findKeyPairs name =>
    cloud.search "DescribeKeyPairs" (only "KeyName" name) HwCloudAnswer.keyPairs
      fun pair => pair.name = name
  | .listSecurityGroups =>
    cloud.call "DescribeSecurityGroups" Query.empty HwCloudAnswer.securityGroups
  | .listInstanceTypes _ => pure (.ok cloud.instanceTypes)
  | .runInstance params => cloud.runInstance params
  | .terminateInstance id => cloud.order "TerminateInstances" (only "InstanceId" id.text)
  | .restartInstance id => cloud.order "RebootInstances" (only "InstanceId" id.text)
  | .createVolume params =>
    cloud.call "CreateVolume" (cloud.volumeQuery params) HwCloudAnswer.volumeCreated
  | .deleteVolume id => cloud.order "DeleteVolume" (single "VolumeId" id.text)
  | .attachVolume disk vm =>
    cloud.order "AttachVolume" ((single "VolumeId" disk.text).set "InstanceId" vm.text)
  | .detachVolume disk vm =>
    cloud.order "DetachVolume" ((single "VolumeId" disk.text).set "InstanceId" vm.text)
  | .createSnapshot disk name =>
    cloud.call "CreateSnapshot" ((single "VolumeId" disk.text).set "Description" name)
      HwCloudAnswer.snapshotCreated
  | .deleteSnapshot id => cloud.order "DeleteSnapshot" (single "SnapshotId" id.text)
  | .deleteImage id => cloud.order "DeleteImages" (only "ImageId" id.text)
  | .associateFloatingIp floatingIp vm =>
    cloud.order "AssociateAddress" ((single "PublicIp" floatingIp.text).set "InstanceId" vm.text)
  | .dissociateFloatingIp floatingIp =>
    cloud.order "DisassociateAddress" (single "PublicIp" floatingIp.text)
  | .bindStaticAddress _ _ _ => pure (.error HwCloudError.noRouterBindings.toProviderError)

end HwCloud

end CloudLifecycle

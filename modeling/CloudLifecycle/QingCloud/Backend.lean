import CloudLifecycle.Lifecycle.Manager
import CloudLifecycle.QingCloud.Account
import CloudLifecycle.QingCloud.Answer

/-!
# QingCloud as a backend

`QingCloud.perform` makes a call to the backend out of actions of QingCloud.  A VM takes one
security group; a fixed address goes with the network that it belongs to; and the instance types
that a zone offers come from a table.
-/

set_option autoImplicit false

namespace CloudLifecycle

/-- A backend at QingCloud. -/
structure QingCloud where
  account : QingCloudAccount
  /-- Instance types by zone. -/
  instanceTypes : Dict (List String)
deriving DecidableEq

namespace QingCloud

/-- The instance types of the zones that are known without configuration. -/
def defaultInstanceTypes : Dict (List String) := Dict.ofList [
  ("gd1", ["c1m1", "c1m2", "c1m4", "c2m2", "c2m4", "c2m8", "c4m4", "c4m8", "c4m16"]),
  ("pek1", ["small_b", "small_c", "medium_a", "medium_b", "medium_c", "large_a", "large_b",
    "large_c"])]

variable (cloud : QingCloud)

/-- What the backend says about itself. -/
def description : Backend := ⟨"qingcloud", cloud.account.zone, some 1⟩

/-- Does an action. -/
def call {α : Type} (action : String) (q : Query) (d : Decoder α) : Web (ProviderResult α) := do
  return (← cloud.account.call action q d).mapError QingCloudError.toProviderError

/-- The first of the things that an action describes; an id that is unknown describes none. -/
def describe {α : Type} (action : String) (q : Query) (d : Decoder (List α)) :
    Web (ProviderResult (Option α)) := do
  match ← cloud.call action q d with
  | .ok found => return .ok found.head?
  | .error (.notFound _) => return .ok none
  | .error e => return .error e

/-- The things that an action describes, as far as they are wanted. -/
def search {α : Type} (action : String) (q : Query) (d : Decoder (List α)) (wanted : α → Bool) :
    Web (ProviderResult (List α)) := do
  return (← cloud.call action q d).map (·.filter wanted)

/-- Does an action that gives nothing of interest. -/
def order (action : String) (q : Query) : Web (ProviderResult Unit) :=
  cloud.call action q QingCloudAnswer.acknowledged

/-- The first id of an answer. -/
def firstId (action : String) : List String → ProviderResult ResourceId
  | id :: _ => .ok ⟨id⟩
  | [] => .error (.decode (action ++ " returned no resource id"))

/-- Does an action that creates something. -/
def create (action : String) (q : Query) (record field : String) :
    Web (ProviderResult ResourceId) := do
  return (← cloud.call action q (QingCloudAnswer.created record field)).bind (firstId action)

/-- The network of a new VM, with its fixed address if it has one. -/
def networkText (params : CreateVmParams) : Option String :=
  params.netId.map fun netId => match params.fixedIp with
    | some ip => netId ++ "|" ++ ip
    | none => netId

/-- The parameters of a request for a new VM. -/
def vmQuery (params : CreateVmParams) : Query :=
  Query.empty.set "image_id" params.imageId.text
    |>.set "instance_type" params.instanceType
    |>.set "instance_name" params.name
    |>.set "count" "1"
    |>.set "login_mode" "keypair"
    |>.set "login_keypair" params.keyPair.id.text
    |>.numbered "vxnets" (networkText params).toList
    |>.setOption "security_group" params.securityGroups.head?
    |>.set "need_userdata" "1"
    |>.set "userdata_type" "plain"
    |>.set "userdata_value" params.userData

/-- The parameters of a request for a new volume. -/
def volumeQuery (params : CreateVolumeParams) : Query :=
  Query.empty.set "size" params.sizeGib.repr
    |>.set "volume_name" params.name
    |>.set "count" "1"

/-- A list of one id. -/
def only (name : String) (id : ResourceId) : Query := Query.empty.numbered name [id.text]

/-- The parameters that bind an address to a VM at a router. -/
def bindingQuery (routerId : String) (vm : ResourceId) (ip : String) : Query :=
  Query.empty.set "router" routerId
    |>.set "statics.1.static_type" "3"
    |>.set "statics.1.val1" vm.text
    |>.set "statics.1.val2" ("fixed-address=" ++ ip)

/-- Binds an address at a router and makes the router take the change. -/
def bindAddress (routerId : String) (vm : ResourceId) (ip : String) :
    Web (ProviderResult Unit) := do
  match ← cloud.order "AddRouterStatics" (bindingQuery routerId vm ip) with
  | .error e => return .error e
  | .ok () => cloud.order "UpdateRouters" (Query.empty.numbered "routers" [routerId])

/-- The floating address that is asked for, among those that a search finds. -/
def findAddress (address : String) : Web (ProviderResult (Option FloatingIpInfo)) := do
  return (← cloud.call "DescribeEips" (Query.empty.set "search_word" address)
    QingCloudAnswer.floatingIps).map (·.find? (·.address = address))

/-- Makes a call to the backend. -/
def perform : (c : ProviderCall) → Web (ProviderResult c.Reply)
  | .refreshCredentials => pure (.ok ())
  | .describeVm id =>
    cloud.describe "DescribeInstances" ((only "instances" id).set "verbose" "1") QingCloudAnswer.vms
  | .describeVolume id =>
    cloud.describe "DescribeVolumes" (only "volumes" id) QingCloudAnswer.volumes
  | .describeSnapshot id =>
    cloud.describe "DescribeSnapshots" (only "snapshots" id) QingCloudAnswer.snapshots
  | .describeImage id =>
    cloud.describe "DescribeImages" ((only "images" id).numbered "status" ["available"])
      QingCloudAnswer.images
  | .describeFloatingIp address => cloud.findAddress address
  | .findImageByName name =>
    cloud.search "DescribeImages"
      ((Query.empty.set "search_word" name).numbered "status" ["available"])
      QingCloudAnswer.images fun image => image.name = name
  | .findKeyPairs name =>
    cloud.search "DescribeKeyPairs" (Query.empty.set "search_word" name) QingCloudAnswer.keyPairs
      fun pair => pair.name = name || pair.id.text = name
  | .listSecurityGroups =>
    cloud.call "DescribeSecurityGroups" (Query.empty.set "limit" "100")
      QingCloudAnswer.securityGroups
  | .listInstanceTypes region => pure (.ok ((cloud.instanceTypes.find? region).getD []))
  | .runInstance params =>
    cloud.create "RunInstances" (vmQuery params) "InstancesCreated" "instances"
  | .terminateInstance id => cloud.order "TerminateInstances" (only "instances" id)
  | .restartInstance id => cloud.order "RestartInstances" (only "instances" id)
  | .createVolume params =>
    cloud.create "CreateVolumes" (volumeQuery params) "VolumesCreated" "volumes"
  | .deleteVolume id => cloud.order "DeleteVolumes" (only "volumes" id)
  | .attachVolume disk vm =>
    cloud.order "AttachVolumes" ((only "volumes" disk).set "instance" vm.text)
  | .detachVolume disk vm =>
    cloud.order "DetachVolumes" ((only "volumes" disk).set "instance" vm.text)
  | .createSnapshot disk name =>
    cloud.create "CreateSnapshots"
      (((only "resources" disk).set "snapshot_name" name).set "is_full" "1")
      "SnapshotsCreated" "snapshots"
  | .deleteSnapshot id => cloud.order "DeleteSnapshots" (only "snapshots" id)
  | .deleteImage id => cloud.order "DeleteImages" (only "images" id)
  | .associateFloatingIp floatingIp vm =>
    cloud.order "AssociateEip" ((Query.empty.set "eip" floatingIp.text).set "instance" vm.text)
  | .dissociateFloatingIp floatingIp => cloud.order "DissociateEips" (only "eips" floatingIp)
  | .bindStaticAddress routerId vm ip => cloud.bindAddress routerId vm ip

end QingCloud

end CloudLifecycle

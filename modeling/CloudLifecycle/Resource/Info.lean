import CloudLifecycle.Json.Fields
import CloudLifecycle.Resource.State

/-!
# What a backend tells about its resources

Records of the resources that describe, find and list calls report, and of the parameters that a
request for a new VM or a new volume carries.
-/

set_option autoImplicit false

namespace CloudLifecycle

namespace ResourceId

def toJson (id : ResourceId) : Json := .text id.text

def decoder : Decoder ResourceId := Decoder.text.map .mk

end ResourceId

/-- A VM as a backend reports it. -/
structure VmInfo where
  id : ResourceId
  /-- Display name, and the key of the VM's agent settings. -/
  name : String
  state : VmState
  privateIp : Option String
  /-- Names or ids of the security groups that the VM is in. -/
  securityGroups : List String
  /-- The floating address that is associated with the VM. -/
  floatingIp : Option String
deriving DecidableEq, Repr

/-- A volume as a backend reports it. -/
structure VolumeInfo where
  id : ResourceId
  name : String
  state : VolumeState
  sizeGib : Nat
  /-- The VM that the volume is attached to. -/
  attachedVm : Option ResourceId
deriving DecidableEq, Repr

/-- A snapshot as a backend reports it. -/
structure SnapshotInfo where
  id : ResourceId
  state : SnapshotState
deriving DecidableEq, Repr

/-- An image as a backend reports it. -/
structure ImageInfo where
  id : ResourceId
  name : String
deriving DecidableEq, Repr

/-- A key pair as a backend reports it. -/
structure KeyPairInfo where
  id : ResourceId
  name : String
  publicKey : Option String
deriving DecidableEq, Repr

/-- A security group as a backend reports it. -/
structure SecurityGroupInfo where
  id : ResourceId
  name : String
deriving DecidableEq, Repr

/-- A floating address as a backend reports it. -/
structure FloatingIpInfo where
  id : ResourceId
  address : String
  associatedVm : Option ResourceId
deriving DecidableEq, Repr

/-- What a new VM shall be like. -/
structure CreateVmParams where
  name : String
  imageId : ResourceId
  instanceType : String
  keyPair : KeyPairInfo
  /-- The primary network. -/
  netId : Option String
  /-- The private address of a manual network. -/
  fixedIp : Option String
  /-- Ids of the security groups, in the order of the request. -/
  securityGroups : List String
  availabilityZone : Option String
  /-- The bootstrap document in Base64. -/
  userData : String
deriving DecidableEq, Repr

/-- What a new volume shall be like. -/
structure CreateVolumeParams where
  name : String
  sizeGib : Nat
  availabilityZone : Option String
deriving DecidableEq, Repr

namespace VmInfo

def toJson (vm : VmInfo) : Json := .object [
  ("id", vm.id.toJson), ("name", .text vm.name), ("state", .text vm.state.tag),
  ("private_ip", Json.ofOption .text vm.privateIp),
  ("security_groups", Json.texts vm.securityGroups),
  ("floating_ip", Json.ofOption .text vm.floatingIp)]

end VmInfo

namespace VolumeInfo

def toJson (volume : VolumeInfo) : Json := .object [
  ("id", volume.id.toJson), ("name", .text volume.name), ("state", .text volume.state.tag),
  ("size_gib", .whole volume.sizeGib),
  ("attached_vm", Json.ofOption ResourceId.toJson volume.attachedVm)]

end VolumeInfo

namespace SnapshotInfo

def toJson (snapshot : SnapshotInfo) : Json := .object [
  ("id", snapshot.id.toJson), ("state", .text snapshot.state.tag)]

end SnapshotInfo

namespace ImageInfo

def toJson (image : ImageInfo) : Json := .object [
  ("id", image.id.toJson), ("name", .text image.name)]

end ImageInfo

namespace KeyPairInfo

def toJson (pair : KeyPairInfo) : Json := .object [
  ("id", pair.id.toJson), ("name", .text pair.name),
  ("public_key", Json.ofOption .text pair.publicKey)]

def decoder : Decoder KeyPairInfo := Decoder.record "KeyPairInfo"
  (KeyPairInfo.mk <$> Fields.required "id" ResourceId.decoder
    <*> Fields.required "name" Decoder.text <*> Fields.nullable "public_key" Decoder.text)

end KeyPairInfo

namespace SecurityGroupInfo

def toJson (group : SecurityGroupInfo) : Json := .object [
  ("id", group.id.toJson), ("name", .text group.name)]

end SecurityGroupInfo

namespace FloatingIpInfo

def toJson (floatingIp : FloatingIpInfo) : Json := .object [
  ("id", floatingIp.id.toJson), ("address", .text floatingIp.address),
  ("associated_vm", Json.ofOption ResourceId.toJson floatingIp.associatedVm)]

end FloatingIpInfo

namespace CreateVmParams

def toJson (params : CreateVmParams) : Json := .object [
  ("name", .text params.name), ("image_id", params.imageId.toJson),
  ("instance_type", .text params.instanceType), ("key_pair", params.keyPair.toJson),
  ("net_id", Json.ofOption .text params.netId), ("fixed_ip", Json.ofOption .text params.fixedIp),
  ("security_groups", Json.texts params.securityGroups),
  ("availability_zone", Json.ofOption .text params.availabilityZone),
  ("user_data", .text params.userData)]

def decoder : Decoder CreateVmParams := Decoder.record "CreateVmParams"
  (CreateVmParams.mk <$> Fields.required "name" Decoder.text
    <*> Fields.required "image_id" ResourceId.decoder
    <*> Fields.required "instance_type" Decoder.text
    <*> Fields.required "key_pair" KeyPairInfo.decoder
    <*> Fields.nullable "net_id" Decoder.text
    <*> Fields.nullable "fixed_ip" Decoder.text
    <*> Fields.required "security_groups" (Decoder.list Decoder.text)
    <*> Fields.nullable "availability_zone" Decoder.text
    <*> Fields.required "user_data" Decoder.text)

end CreateVmParams

namespace CreateVolumeParams

def toJson (params : CreateVolumeParams) : Json := .object [
  ("name", .text params.name), ("size_gib", .whole params.sizeGib),
  ("availability_zone", Json.ofOption .text params.availabilityZone)]

def decoder : Decoder CreateVolumeParams := Decoder.record "CreateVolumeParams"
  (CreateVolumeParams.mk <$> Fields.required "name" Decoder.text
    <*> Fields.required "size_gib" Decoder.word32
    <*> Fields.nullable "availability_zone" Decoder.text)

end CreateVolumeParams

end CloudLifecycle

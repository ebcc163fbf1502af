import CloudLifecycle.Resource.Info

/-!
# Answers of QingCloud

How the answers of QingCloud read as the records of a backend.  An empty text stands for an absent
address or VM, and of several addresses of a VM the first one counts.
-/

set_option autoImplicit false

namespace CloudLifecycle.QingCloudAnswer

/-- A text, unless it is empty. -/
def nonEmpty? (s : String) : Option String := if s.isEmpty then none else some s

/-- The private address of a VM in one of its networks. -/
def network : Decoder (Option String) := Decoder.record "InstanceVxnet"
  ((fun (_ : String) ip => ip) <$> Fields.required "vxnet_id" Decoder.text
    <*> Fields.maybe "private_ip" Decoder.text)

/-- The id of the security group of a VM. -/
def groupRef : Decoder String :=
  Decoder.record "SecurityGroupRef" (Fields.required "security_group_id" Decoder.text)

/-- The floating address of a VM. -/
def addressRef : Decoder String := Decoder.record "EipRef"
  ((fun (_ address : String) => address) <$> Fields.withDefault "eip_id" Decoder.text ""
    <*> Fields.withDefault "eip_addr" Decoder.text "")

/-- A VM. -/
def vm : Decoder VmInfo := Decoder.record "Instance"
  ((fun id name status (networks : List (Option String)) (group address : Option String) => {
      id := ⟨id⟩
      name
      state := VmState.parse status
      privateIp := networks.findSome? (·.bind nonEmpty?)
      securityGroups := group.toList
      floatingIp := address.bind nonEmpty? : VmInfo })
    <$> Fields.required "instance_id" Decoder.text
    <*> Fields.withDefault "instance_name" Decoder.text ""
    <*> Fields.required "status" Decoder.text
    <*> Fields.withDefault "vxnets" (Decoder.list network) []
    <*> Fields.maybe "security_group" groupRef
    <*> Fields.maybe "eip" addressRef)

/-- The VM that a volume is attached to. -/
def holder : Decoder String := Decoder.record "VolumeInstance"
  ((fun (id _ : String) => id) <$> Fields.withDefault "instance_id" Decoder.text ""
    <*> Fields.withDefault "device" Decoder.text "")

/-- A volume. -/
def volume : Decoder VolumeInfo := Decoder.record "Volume"
  ((fun id name status size (instance? : Option String) => {
      id := ⟨id⟩
      name
      state := VolumeState.parse status
      sizeGib := size
      attachedVm := (instance?.bind nonEmpty?).map .mk : VolumeInfo })
    <$> Fields.required "volume_id" Decoder.text
    <*> Fields.withDefault "volume_name" Decoder.text ""
    <*> Fields.required "status" Decoder.text
    <*> Fields.withDefault "size" Decoder.word32 0
    <*> Fields.maybe "instance" holder)

/-- A snapshot. -/
def snapshot : Decoder SnapshotInfo := Decoder.record "Snapshot"
  ((fun id status => ⟨⟨id⟩, SnapshotState.parse status⟩)
    <$> Fields.required "snapshot_id" Decoder.text <*> Fields.required "status" Decoder.text)

/-- An image. -/
def image : Decoder ImageInfo := Decoder.record "Image"
  ((fun id name => ⟨⟨id⟩, name⟩) <$> Fields.required "image_id" Decoder.text
    <*> Fields.withDefault "image_name" Decoder.text "")

/-- A key pair. -/
def keyPair : Decoder KeyPairInfo := Decoder.record "KeyPair"
  ((fun id name key => ⟨⟨id⟩, name, key⟩) <$> Fields.required "keypair_id" Decoder.text
    <*> Fields.withDefault "keypair_name" Decoder.text ""
    <*> Fields.maybe "pub_key" Decoder.text)

/-- A security group. -/
def securityGroup : Decoder SecurityGroupInfo := Decoder.record "SecurityGroup"
  ((fun id name => ⟨⟨id⟩, name⟩) <$> Fields.required "security_group_id" Decoder.text
    <*> Fields.withDefault "security_group_name" Decoder.text "")

/-- What holds a floating address, if that is a VM. -/
def addressHolder : Decoder (Option ResourceId) := Decoder.record "EipResource"
  ((fun id kind => if kind = "instance" then (nonEmpty? id).map .mk else none)
    <$> Fields.withDefault "resource_id" Decoder.text ""
    <*> Fields.withDefault "resource_type" Decoder.text "")

/-- A floating address. -/
def floatingIp : Decoder FloatingIpInfo := Decoder.record "Eip"
  ((fun id address (holder? : Option (Option ResourceId)) => ⟨⟨id⟩, address, holder?.join⟩)
    <$> Fields.required "eip_id" Decoder.text <*> Fields.required "eip_addr" Decoder.text
    <*> Fields.maybe "resource" addressHolder)

/-- A record with one list, which may be missing. -/
def set {α : Type} (name field : String) (d : Decoder α) : Decoder (List α) :=
  Decoder.record name (Fields.withDefault field (Decoder.list d) [])

def vms : Decoder (List VmInfo) := set "InstanceSet" "instance_set" vm

def volumes : Decoder (List VolumeInfo) := set "VolumeSet" "volume_set" volume

def snapshots : Decoder (List SnapshotInfo) := set "SnapshotSet" "snapshot_set" snapshot

def images : Decoder (List ImageInfo) := set "ImageSet" "image_set" image

def keyPairs : Decoder (List KeyPairInfo) := set "KeyPairSet" "keypair_set" keyPair

def securityGroups : Decoder (List SecurityGroupInfo) :=
  set "SecurityGroupSet" "security_group_set" securityGroup

def floatingIps : Decoder (List FloatingIpInfo) := set "EipSet" "eip_set" floatingIp

/-- The ids of what an action created. -/
def created (name field : String) : Decoder (List String) :=
  Decoder.record name (Fields.required field (Decoder.list Decoder.text))

/-- The answer to an action that gives nothing of interest. -/
def acknowledged : Decoder Unit :=
  Decoder.record "Ack" ((fun (_ : Option String) => ()) <$> Fields.maybe "job_id" Decoder.text)

end CloudLifecycle.QingCloudAnswer

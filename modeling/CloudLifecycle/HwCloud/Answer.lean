import CloudLifecycle.Resource.Info

/-!
# Answers of HwCloud

How the answers of HwCloud read as the records of a backend.  Sets come wrapped in an object of
lists (`itemSet`), whose items are taken together; what is not such an object reads as empty.
-/

set_option autoImplicit false

namespace CloudLifecycle.HwCloudAnswer

/-- The items of all lists of an object, in the order of its keys; anything else has no items. -/
def itemSet {α : Type} (d : Decoder α) : Decoder (List α) := fun source tree => do
  discard (Decoder.any source tree)
  match (Decoder.dict (Decoder.list d)) .value tree with
  | .ok lists => return lists.values.flatten
  | .error _ => return []

/-- A field with a set, which may be missing. -/
def setField {α : Type} (name : String) (d : Decoder α) : Fields (List α) :=
  Fields.withDefault name (itemSet d) []

/-- A text, unless it is empty. -/
def nonEmpty (s : String) : Bool := !s.isEmpty

/-- The state of a VM. -/
def vmState : Decoder VmState :=
  Decoder.record "InstanceState" (VmState.parse <$> Fields.withDefault "name" Decoder.text "")

/-- The id of a security group of a VM. -/
def groupRef : Decoder String :=
  Decoder.record "GroupItem" (Fields.required "groupId" Decoder.text)

/-- A floating address of a VM. -/
def addressRef : Decoder String :=
  Decoder.record "PublicIpItem" (Fields.required "publicIp" Decoder.text)

/-- A VM. -/
def vm : Decoder VmInfo := Decoder.record "Instance"
  ((fun id name (state : Option VmState) (ip : Option String) groups (addresses : List String) => {
      id := ⟨id⟩
      name
      state := state.getD .unknown
      privateIp := ip.filter nonEmpty
      securityGroups := groups
      floatingIp := addresses.find? nonEmpty : VmInfo })
    <$> Fields.required "instanceId" Decoder.text
    <*> Fields.withDefault "instanceName" Decoder.text ""
    <*> Fields.maybe "instanceState" vmState
    <*> Fields.maybe "privateIpAddress" Decoder.text
    <*> setField "groupSet" groupRef
    <*> setField "publicIpSet" addressRef)

/-- The VM that a volume is attached to. -/
def attachment : Decoder String := Decoder.record "Attachment"
  ((fun (id _ : String) => id) <$> Fields.required "instanceId" Decoder.text
    <*> Fields.withDefault "device" Decoder.text "")

/-- A volume. -/
def volume : Decoder VolumeInfo := Decoder.record "Volume"
  ((fun id name status size (attachments : List String) => {
      id := ⟨id⟩
      name
      state := VolumeState.parse status
      sizeGib := size
      attachedVm := (attachments.find? nonEmpty).map .mk : VolumeInfo })
    <$> Fields.required "volumeId" Decoder.text
    <*> Fields.withDefault "volumeName" Decoder.text ""
    <*> Fields.required "status" Decoder.text
    <*> Fields.withDefault "size" Decoder.word32 0
    <*> setField "attachmentSet" attachment)

/-- A snapshot. -/
def snapshot : Decoder SnapshotInfo := Decoder.record "Snapshot"
  ((fun id status => ⟨⟨id⟩, SnapshotState.parse status⟩)
    <$> Fields.required "snapshotId" Decoder.text <*> Fields.required "status" Decoder.text)

/-- An image. -/
def image : Decoder ImageInfo := Decoder.record "Image"
  ((fun id name => ⟨⟨id⟩, name⟩) <$> Fields.required "imageId" Decoder.text
    <*> Fields.withDefault "name" Decoder.text "")

/-- A key pair, which goes by its name. -/
def keyPair : Decoder KeyPairInfo := Decoder.record "KeyPair"
  ((fun name key => ⟨⟨name⟩, name, key⟩) <$> Fields.required "keyName" Decoder.text
    <*> Fields.maybe "publicKey" Decoder.text)

/-- A security group. -/
def securityGroup : Decoder SecurityGroupInfo := Decoder.record "SecurityGroup"
  ((fun id name => ⟨⟨id⟩, name⟩) <$> Fields.required "groupId" Decoder.text
    <*> Fields.withDefault "groupName" Decoder.text "")

/-- A floating address, which goes by itself; only one that is marked as associated has a VM. -/
def floatingIp : Decoder FloatingIpInfo := Decoder.record "Address"
  ((fun address (holder : Option String) mark =>
      ⟨⟨address⟩, address, (holder.filter fun id => mark = "associated" && nonEmpty id).map .mk⟩)
    <$> Fields.required "publicIp" Decoder.text
    <*> Fields.maybe "instanceId" Decoder.text
    <*> Fields.withDefault "isAssige" Decoder.text "")

/-- A record with one set. -/
def set {α : Type} (name field : String) (d : Decoder α) : Decoder (List α) :=
  Decoder.record name (setField field d)

def vms : Decoder (List VmInfo) := set "InstancesResponse" "instancesSet" vm

def volumes : Decoder (List VolumeInfo) := set "VolumesResponse" "volumeSet" volume

def snapshots : Decoder (List SnapshotInfo) := set "SnapshotsResponse" "snapshotSet" snapshot

def images : Decoder (List ImageInfo) := set "ImagesResponse" "imagesSet" image

def keyPairs : Decoder (List KeyPairInfo) := set "KeyPairsResponse" "keySet" keyPair

def securityGroups : Decoder (List SecurityGroupInfo) :=
  set "SecurityGroupsResponse" "securityGroupInfo" securityGroup

def floatingIps : Decoder (List FloatingIpInfo) := set "AddressesResponse" "addressesSet" floatingIp

/-- The id of a new volume. -/
def volumeCreated : Decoder ResourceId :=
  Decoder.record "VolumeCreated" (.mk <$> Fields.required "volumeId" Decoder.text)

/-- The id of a new snapshot. -/
def snapshotCreated : Decoder ResourceId :=
  Decoder.record "SnapshotCreated" (.mk <$> Fields.required "snapshotId" Decoder.text)

/-- The answer to an action that gives nothing of interest. -/
def acknowledged : Decoder Unit :=
  Decoder.record "Ack" ((fun (_ : Option String) => ()) <$> Fields.maybe "requestId" Decoder.text)

end CloudLifecycle.HwCloudAnswer

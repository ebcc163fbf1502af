import CloudLifecycle.Lifecycle.Action

/-!
# Scripts

A script answers the calls of a lifecycle verb from queues, one queue for each name of a call.  A
`Cue` is one scripted answer; `ProviderCall.reading` says what the value of a cue means as the
answer to a call, and `ProviderCall.unscripted` what a call answers that the script does not speak
of.
-/

set_option autoImplicit false

namespace CloudLifecycle

/-- What a scripted call answers. -/
inductive CueReply where
  | value (value : Json)
  | refused (cause : ProviderError)
  | storeFailed (cause : SettingsError)
deriving DecidableEq

/-- One scripted answer. -/
structure Cue where
  /-- Time that passes before the answer. -/
  takes : Duration
  /-- The task is cancelled during the call. -/
  cancels : Bool
  reply : CueReply
deriving DecidableEq

namespace ProviderCall

/-- The name of a call in scripts. -/
def name : ProviderCall → String
  | refreshCredentials => "refresh_credentials"
  | describeVm _ => "describe_vm"
  | describeVolume _ => "describe_volume"
  | describeSnapshot _ => "describe_snapshot"
  | describeImage _ => "describe_image"
  | describeFloatingIp _ => "describe_floating_ip"
  | findImageByName _ => "find_image_by_name"
  | findKeyPairs _ => "find_key_pairs"
  | listSecurityGroups => "list_security_groups"
  | listInstanceTypes _ => "list_instance_types"
  | runInstance _ => "run_instance"
  | terminateInstance _ => "terminate_instance"
  | restartInstance _ => "restart_instance"
  | createVolume _ => "create_volume"
  | deleteVolume _ => "delete_volume"
  | attachVolume _ _ => "attach_volume"
  | detachVolume _ _ => "detach_volume"
  | createSnapshot _ _ => "create_snapshot"
  | deleteSnapshot _ => "delete_snapshot"
  | deleteImage _ => "delete_image"
  | associateFloatingIp _ _ => "associate_floating_ip"
  | dissociateFloatingIp _ => "dissociate_floating_ip"
  | bindStaticAddress _ _ _ => "bind_static_address"

/-- The text under a key of a scripted value. -/
def textOf (key : String) (value : Json) : Option String := (value.member? key).bind Json.asText?

/-- The id under a key of a scripted value. -/
def idOf (key : String) (value : Json) : Option ResourceId := (textOf key value).map .mk

/-- The id of a scripted value. -/
def ownId (value : Json) : ResourceId := ⟨(textOf "id" value).getD ""⟩

/-- The name of a scripted value. -/
def ownName (value : Json) : String := (textOf "name" value).getD ""

/-- The texts of a scripted list. -/
def textsOf (value : Option Json) : List String :=
  ((value.bind Json.asList?).getD []).filterMap Json.asText?

/-- A scripted value, where it is not `null`. -/
def present? : Json → Option Json
  | .null => none
  | value => some value

/-- The items of a scripted list. -/
def itemsOf (value : Json) : List Json := value.asList?.getD []

/-- The VM of a scripted value; the name `$LAST` stands for that of the last new VM. -/
def readVm (lastName : String) (asked : ResourceId) (value : Json) : VmInfo where
  id := (idOf "id" value).getD asked
  name := if ownName value = "$LAST" then lastName else ownName value
  state := VmState.parse ((textOf "state" value).getD "running")
  privateIp := textOf "private_ip" value
  securityGroups := textsOf (value.member? "security_groups")
  floatingIp := textOf "floating_ip" value

/-- What a scripted value means as the answer to a call. -/
def reading (lastName : String) : (call : ProviderCall) → Json → call.Reply
  | describeVm id, value => (present? value).map (readVm lastName id)
  | describeVolume id, value => (present? value).map fun value =>
    ⟨id, "", VolumeState.parse ((textOf "state" value).getD "available"), 0,
      idOf "attached_vm" value⟩
  | describeSnapshot id, value => (present? value).map fun value =>
    ⟨id, SnapshotState.parse ((textOf "state" value).getD "")⟩
  | describeImage _, value => (present? value).map fun value => ⟨ownId value, ownName value⟩
  | describeFloatingIp address, value => (present? value).map fun value =>
    ⟨ownId value, address, idOf "associated_vm" value⟩
  | findImageByName _, value => (itemsOf value).map fun item => ⟨ownId item, ownName item⟩
  | findKeyPairs _, value => (itemsOf value).map fun item =>
    ⟨ownId item, ownName item, textOf "public_key" item⟩
  | listSecurityGroups, value => (itemsOf value).map fun item => ⟨ownId item, ownName item⟩
  | listInstanceTypes _, value => textsOf (some value)
  | runInstance _, value | createVolume _, value | createSnapshot _ _, value =>
    ⟨value.asText?.getD ""⟩
  | refreshCredentials, _ | terminateInstance _, _ | restartInstance _, _ | deleteVolume _, _
  | attachVolume _ _, _ | detachVolume _ _, _ | deleteSnapshot _, _ | deleteImage _, _
  | associateFloatingIp _ _, _ | dissociateFloatingIp _, _ | bindStaticAddress _ _ _, _ => ()

/-- What a call answers that the script does not speak of: nothing new comes into being, nothing is
there, and everything else succeeds. -/
def unscripted (call : ProviderCall) : ProviderResult call.Reply :=
  match call with
  | runInstance _ | createVolume _ | createSnapshot _ _ =>
    .error (.serverError (name call ++ " is not scripted"))
  | other => .ok (reading "" other .null)

end ProviderCall

/-- The name of an operation on the settings store in scripts. -/
def SettingsCall.name : SettingsCall → String
  | .read _ => "settings.read"
  | .update _ _ => "settings.update"
  | .delete _ => "settings.delete"

/-- The key that an operation on the settings store concerns. -/
def SettingsCall.key : SettingsCall → String
  | .read key => key
  | .update key _ => key
  | .delete key => key

end CloudLifecycle

import CloudLifecycle.Error
import CloudLifecycle.Program
import CloudLifecycle.Resource.Info
import CloudLifecycle.Settings.Document

/-!
# What a lifecycle verb asks for

A verb talks to its surroundings through actions: calls to the backend, operations on the settings
store, the look-up of the machine's own id, and time.  An `Action` is answered by a value of type
`Action.Answer`; a `Task` is a program over actions, and a `Verb` a task that may fail.
-/

set_option autoImplicit false

namespace CloudLifecycle

/-- A call to the backend. -/
inductive ProviderCall where
  /-- Drops cached credentials, so that the next call authenticates again. -/
  | refreshCredentials
  | describeVm (id : ResourceId)
  | describeVolume (id : ResourceId)
  | describeSnapshot (id : ResourceId)
  | describeImage (id : ResourceId)
  | describeFloatingIp (address : String)
  | findImageByName (name : String)
  | findKeyPairs (name : String)
  | listSecurityGroups
  | listInstanceTypes (region : String)
  | runInstance (params : CreateVmParams)
  | terminateInstance (id : ResourceId)
  | restartInstance (id : ResourceId)
  | createVolume (params : CreateVolumeParams)
  | deleteVolume (id : ResourceId)
  | attachVolume (disk vm : ResourceId)
  | detachVolume (disk vm : ResourceId)
  | createSnapshot (disk : ResourceId) (name : String)
  | deleteSnapshot (id : ResourceId)
  | deleteImage (id : ResourceId)
  | associateFloatingIp (floatingIp vm : ResourceId)
  | dissociateFloatingIp (floatingIp : ResourceId)
  /-- Binds a fixed address to a VM in the address service of a router. -/
  | bindStaticAddress (routerId : String) (vm : ResourceId) (ip : String)
deriving DecidableEq, Repr

/-- What a call to the backend answers when it succeeds; describe calls answer nothing for a
resource that does not exist. -/
abbrev ProviderCall.Reply : ProviderCall → Type
  | .describeVm _ => Option VmInfo
  | .describeVolume _ => Option VolumeInfo
  | .describeSnapshot _ => Option SnapshotInfo
  | .describeImage _ => Option ImageInfo
  | .describeFloatingIp _ => Option FloatingIpInfo
  | .findImageByName _ => List ImageInfo
  | .findKeyPairs _ => List KeyPairInfo
  | .listSecurityGroups => List SecurityGroupInfo
  | .listInstanceTypes _ => List String
  | .runInstance _ => ResourceId
  | .createVolume _ => ResourceId
  | .createSnapshot _ _ => ResourceId
  | _ => Unit

/-- The call may change something at the backend. -/
def ProviderCall.isMutating : ProviderCall → Bool
  | .runInstance _ | .terminateInstance _ | .restartInstance _ | .createVolume _ | .deleteVolume _
  | .attachVolume _ _ | .detachVolume _ _ | .createSnapshot _ _ | .deleteSnapshot _ | .deleteImage _
  | .associateFloatingIp _ _ | .dissociateFloatingIp _ | .bindStaticAddress _ _ _ => true
  | _ => false

/-- An operation on the settings store. -/
inductive SettingsCall where
  | read (key : String)
  | update (key : String) (settings : AgentSettings)
  | delete (key : String)
deriving DecidableEq

/-- What an operation on the settings store answers when it succeeds. -/
abbrev SettingsCall.Reply : SettingsCall → Type
  | .read _ => AgentSettings
  | .update _ _ => Unit
  | .delete _ => Unit

/-- What a lifecycle verb asks of its surroundings. -/
inductive Action where
  | provider (call : ProviderCall)
  | settings (call : SettingsCall)
  /-- The raw answer of the metadata service for the machine's own id. -/
  | lookUpSelf
  /-- The machine's own id, if it was found before. -/
  | recallSelf
  | rememberSelf (id : ResourceId)
  /-- Waits until no other task looks up the machine's own id. -/
  | lockSelf
  | unlockSelf
  /-- Lets time pass. -/
  | sleep (span : Duration)
  /-- The time since some fixed moment. -/
  | clock
  /-- Whether the task has been cancelled. -/
  | cancelled
  /-- A name that was never given before. -/
  | freshName
  /-- Gives up the whole run; there is no answer. -/
  | abort
deriving DecidableEq

/-- The answer to an action. -/
abbrev Action.Answer : Action → Type
  | .provider call => ProviderResult call.Reply
  | .settings call => Except SettingsError call.Reply
  | .lookUpSelf => ProviderResult String
  | .recallSelf => Option ResourceId
  | .rememberSelf _ => Unit
  | .lockSelf => Unit
  | .unlockSelf => Unit
  | .sleep _ => Unit
  | .clock => Duration
  | .cancelled => Bool
  | .freshName => String
  | .abort => Empty

/-- A program over actions. -/
abbrev Task : Type → Type := Program Action Action.Answer

/-- A task that may fail for a cause of the lifecycle. -/
abbrev Verb : Type → Type := ExceptT CpiError (Program Action Action.Answer)

namespace Task

variable {α : Type}

def provider (call : ProviderCall) : Task (ProviderResult call.Reply) :=
  Program.request (Action.provider call)

def settings (call : SettingsCall) : Task (Except SettingsError call.Reply) :=
  Program.request (Action.settings call)

def sleep (span : Duration) : Task Unit := Program.request (Action.sleep span)

def clock : Task Duration := Program.request Action.clock

def cancelled : Task Bool := Program.request Action.cancelled

def freshName : Task String := Program.request Action.freshName

/-- Never comes to a result. -/
def abort : Task α := Program.ask Action.abort fun impossible => nomatch impossible

end Task

end CloudLifecycle

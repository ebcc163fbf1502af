/-!
# Kinds and states of cloud resources

A backend reports the state of a VM, a volume or a snapshot as a word.  Each kind has its own
states; `parse` reads the word without regard to the case of ASCII letters, and every word it does
not know means `unknown`.  A resource that the backend does not list has the state `noExist`.
`IsState` collects what waiting needs to know about states of any kind.
-/

set_option autoImplicit false

namespace CloudLifecycle

/-- An identifier that a backend gave to a resource. -/
structure ResourceId where
  text : String
deriving DecidableEq, Repr, Inhabited

/-- The kinds of resources that errors speak of. -/
inductive ResourceKind where
  | vm
  | volume
  | snapshot
  | image
  | floatingIp
  | keyPair
  | securityGroup
  | instanceType
deriving DecidableEq, Repr

/-- The kind as messages spell it. -/
def ResourceKind.text : ResourceKind → String
  | .vm => "VM"
  | .volume => "volume"
  | .snapshot => "snapshot"
  | .image => "image"
  | .floatingIp => "floating IP"
  | .keyPair => "key pair"
  | .securityGroup => "security group"
  | .instanceType => "instance type"

/-- What the states of all kinds have in common. -/
class IsState (σ : Type) where
  /-- The state of a resource that is not listed. -/
  absent : σ
  /-- States after which no target can be reached. -/
  isFailure : σ → Bool
  /-- States that count as absence. -/
  isGone : σ → Bool
  /-- Reads the word of a backend. -/
  parse : String → σ
  /-- The state as messages spell it. -/
  text : σ → String

/-- ASCII letters in lower case. -/
def lowerAscii (s : String) : String := String.ofList (s.toList.map Char.toLower)

/-- Words of a backend that mean that a resource has failed. -/
def isFailureWord (word : String) : Bool := word = "error" || word = "failed" || word = "killed"

/-- States of a VM. -/
inductive VmState where
  | pending
  | running
  | stopped
  | suspended
  | terminated
  | ceased
  | noExist
  | error
  | unknown
deriving DecidableEq, Repr

namespace VmState

def text : VmState → String
  | .pending => "pending"
  | .running => "running"
  | .stopped => "stopped"
  | .suspended => "suspended"
  | .terminated => "terminated"
  | .ceased => "ceased"
  | .noExist => "noexist"
  | .error => "error"
  | .unknown => "unknown"

/-- The state as documents spell it. -/
def tag : VmState → String
  | .noExist => "no_exist"
  | s => s.text

/-- Terminated and ceased VMs count as absent. -/
def isGone : VmState → Bool
  | .terminated | .ceased | .noExist => true
  | _ => false

def parse (raw : String) : VmState :=
  let word := lowerAscii raw
  if word = "pending" || word = "starting" || word = "initializing" then .pending
  else if word = "running" then .running
  else if word = "stopped" || word = "stopping" then .stopped
  else if word = "suspended" then .suspended
  else if word = "terminated" || word = "shutting-down" then .terminated
  else if word = "ceased" then .ceased
  else if word = "" || word = "noexist" then .noExist
  else if isFailureWord word then .error
  else .unknown

instance : IsState VmState where
  absent := .noExist
  isFailure s := s == .error
  isGone := isGone
  parse := parse
  text := text

end VmState

/-- States of a block volume. -/
inductive VolumeState where
  | creating
  | available
  | inUse
  | deleting
  | deleted
  | ceased
  | noExist
  | error
  | unknown
deriving DecidableEq, Repr

namespace VolumeState

def text : VolumeState → String
  | .creating => "creating"
  | .available => "available"
  | .inUse => "in-use"
  | .deleting => "deleting"
  | .deleted => "deleted"
  | .ceased => "ceased"
  | .noExist => "noexist"
  | .error => "error"
  | .unknown => "unknown"

/-- The state as documents spell it. -/
def tag : VolumeState → String
  | .noExist => "no-exist"
  | s => s.text

def isGone : VolumeState → Bool
  | .deleted | .ceased | .noExist => true
  | _ => false

def parse (raw : String) : VolumeState :=
  let word := lowerAscii raw
  if word = "creating" || word = "pending" then .creating
  else if word = "available" then .available
  else if word = "in-use" || word = "in_use" || word = "attached" then .inUse
  else if word = "deleting" then .deleting
  else if word = "deleted" then .deleted
  else if word = "ceased" then .ceased
  else if word = "" || word = "noexist" then .noExist
  else if isFailureWord word then .error
  else .unknown

instance : IsState VolumeState where
  absent := .noExist
  isFailure s := s == .error
  isGone := isGone
  parse := parse
  text := text

end VolumeState

/-- States of a snapshot. -/
inductive SnapshotState where
  | creating
  | available
  | ceased
  | deleted
  | noExist
  | error
  | unknown
deriving DecidableEq, Repr

namespace SnapshotState

def text : SnapshotState → String
  | .creating => "creating"
  | .available => "available"
  | .ceased => "ceased"
  | .deleted => "deleted"
  | .noExist => "noexist"
  | .error => "error"
  | .unknown => "unknown"

/-- The state as documents spell it. -/
def tag : SnapshotState → String
  | .noExist => "no_exist"
  | s => s.text

def isGone : SnapshotState → Bool
  | .ceased | .deleted | .noExist => true
  | _ => false

def parse (raw : String) : SnapshotState :=
  let word := lowerAscii raw
  if word = "creating" || word = "pending" then .creating
  else if word = "available" || word = "completed" then .available
  else if word = "ceased" then .ceased
  else if word = "deleted" then .deleted
  else if word = "" || word = "noexist" then .noExist
  else if isFailureWord word then .error
  else .unknown

instance : IsState SnapshotState where
  absent := .noExist
  isFailure s := s == .error
  isGone := isGone
  parse := parse
  text := text

end SnapshotState

end CloudLifecycle

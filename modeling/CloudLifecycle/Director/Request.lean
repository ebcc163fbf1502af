import CloudLifecycle.Lifecycle.Disk
import CloudLifecycle.Lifecycle.Self
import CloudLifecycle.Lifecycle.Snapshot
import CloudLifecycle.Lifecycle.Vm

/-!
# Requests of the director

A request names a method and carries positional arguments.  `Command.ofRequest` reads it as a
command with typed arguments: an argument beyond the end of the list reads as `null`, further
arguments are passed over, and nothing is done before all arguments of the command have been read.
-/

set_option autoImplicit false

namespace CloudLifecycle

/-- A request of the director. -/
structure Request where
  method : String
  arguments : List Json
  context : Json
deriving DecidableEq

/-- Why a request has no result. -/
inductive Failure where
  /-- There is no such method. -/
  | notImplemented (method : String)
  | lifecycle (cause : CpiError)
deriving DecidableEq, Repr

namespace Request

def decoder : Decoder Request := Decoder.record "CpiRequest"
  (Request.mk <$> Fields.required "method" Decoder.text
    <*> Fields.withDefault "arguments" (Decoder.list Decoder.any) []
    <*> Fields.withDefault "context" Decoder.any .null)

/-- The failure of a request that was not understood. -/
def malformed (e : DecodeError) : Failure :=
  .lifecycle (.invalidArgument ("malformed request: " ++ e.message))

/-- Reads the text of a request. -/
def ofText (text : String) : Except Failure Request := (decoder.fromText text).mapError malformed

/-- Reads a request that is a value already. -/
def ofJson (value : Json) : Except Failure Request := (decoder.fromJson value).mapError malformed

end Request

/-- The methods that a director can call. -/
inductive Method where
  | info
  | currentVmId
  | createStemcell
  | deleteStemcell
  | createVm
  | deleteVm
  | hasVm
  | rebootVm
  | setVmMetadata
  | configureNetworks
  | createDisk
  | deleteDisk
  | hasDisk
  | attachDisk
  | detachDisk
  | getDisks
  | snapshotDisk
  | deleteSnapshot
deriving DecidableEq, Repr

namespace Method

def name : Method → String
  | info => "info"
  | currentVmId => "current_vm_id"
  | createStemcell => "create_stemcell"
  | deleteStemcell => "delete_stemcell"
  | createVm => "create_vm"
  | deleteVm => "delete_vm"
  | hasVm => "has_vm"
  | rebootVm => "reboot_vm"
  | setVmMetadata => "set_vm_metadata"
  | configureNetworks => "configure_networks"
  | createDisk => "create_disk"
  | deleteDisk => "delete_disk"
  | hasDisk => "has_disk"
  | attachDisk => "attach_disk"
  | detachDisk => "detach_disk"
  | getDisks => "get_disks"
  | snapshotDisk => "snapshot_disk"
  | deleteSnapshot => "delete_snapshot"

/-- All methods, in the order in which they are listed. -/
def all : List Method :=
  [info, currentVmId, createStemcell, deleteStemcell, createVm, deleteVm, hasVm, rebootVm,
    setVmMetadata, configureNetworks, createDisk, deleteDisk, hasDisk, attachDisk, detachDisk,
    getDisks, snapshotDisk, deleteSnapshot]

/-- The method of a name. -/
def ofName? (name : String) : Option Method := all.find? fun method => method.name = name

/-- A name has a method exactly if it is the name of one. -/
theorem isSome_ofName?_iff (name : String) :
    (ofName? name).isSome ↔ name ∈ all.map Method.name := by
  simp [ofName?, List.mem_map]

end Method

/-- A method with its arguments. -/
inductive Command where
  | info
  | currentVmId
  | createStemcell (properties : StemcellProperties)
  | deleteStemcell (id : ResourceId)
  | createVm (request : VmRequest)
  | deleteVm (id : ResourceId)
  | hasVm (id : ResourceId)
  | rebootVm (id : ResourceId)
  /-- Accepted without a look at the arguments, as no backend keeps metadata. -/
  | setVmMetadata
  | configureNetworks (id : ResourceId) (networks : NetworkSpec)
  | createDisk (sizeMib : Nat)
  | deleteDisk (id : ResourceId)
  | hasDisk (id : ResourceId)
  | attachDisk (vm disk : ResourceId)
  | detachDisk (vm disk : ResourceId)
  | getDisks (vm : ResourceId)
  | snapshotDisk (disk : ResourceId)
  | deleteSnapshot (id : ResourceId)
deriving DecidableEq

/-- Arguments by position. -/
structure Arguments where
  values : List Json
deriving DecidableEq

namespace Arguments

/-- The value at a position, `null` beyond the end. -/
def value (arguments : Arguments) (position : Nat) : Json :=
  arguments.values[position]?.getD .null

/-- Reads the argument at a position. -/
def read {α : Type} (arguments : Arguments) (position : Nat) (name : String) (d : Decoder α) :
    Except CpiError α :=
  (d.fromJson (arguments.value position)).mapError fun e =>
    .invalidArgument ("argument `" ++ name ++ "': " ++ e.message)

/-- Reads the id of a resource, which must not be empty. -/
def resource (arguments : Arguments) (position : Nat) (name : String) :
    Except CpiError ResourceId := do
  let id ← arguments.read position name Decoder.text
  if id.isEmpty then throw (.invalidArgument ("argument `" ++ name ++ "' must not be empty"))
  return ⟨id⟩

/-- Reads the id of a VM, and then that of a disk. -/
def vmAndDisk (arguments : Arguments) : Except CpiError (ResourceId × ResourceId) := do
  let vm ← arguments.resource 0 "vm_id"
  let disk ← arguments.resource 1 "disk_id"
  return (vm, disk)

/-- Reads what a new VM shall be like; the fifth argument is not used. -/
def vmRequest (arguments : Arguments) : Except CpiError VmRequest := do
  let agentId ← arguments.read 0 "agent_id" Decoder.text
  let stemcell ← arguments.resource 1 "stemcell_id"
  let properties ← arguments.read 2 "cloud_properties" VmCloudProperties.decoder
  let networks ← arguments.read 3 "networks" NetworkSpec.decoder
  let env ← arguments.read 5 "env" Decoder.any.optional
  return { agentId, stemcell, properties, networks, env }

/-- Reads the size of a new disk and checks the VM that it shall be near to. -/
def diskSize (arguments : Arguments) : Except CpiError Nat := do
  let sizeMib ← arguments.read 0 "size" Decoder.word64
  discard (arguments.read 2 "vm_locality" Decoder.text.optional)
  return sizeMib

end Arguments

namespace Command

/-- Reads the arguments of a method.  Setting the metadata of a VM has no effect and reads none of
them at the default log level; only where messages for debugging are written is the VM's id checked,
which is a part of the message. -/
def ofArguments (arguments : Arguments) : Method → Except CpiError Command
  | .info => .ok .info
  | .currentVmId => .ok .currentVmId
  | .createStemcell =>
    createStemcell <$> arguments.read 1 "cloud_properties" StemcellProperties.decoder
  | .deleteStemcell => deleteStemcell <$> arguments.resource 0 "stemcell_id"
  | .createVm => createVm <$> arguments.vmRequest
  | .deleteVm => deleteVm <$> arguments.resource 0 "vm_id"
  | .hasVm => hasVm <$> arguments.resource 0 "vm_id"
  | .rebootVm => rebootVm <$> arguments.resource 0 "vm_id"
  | .setVmMetadata => .ok .setVmMetadata
  | .configureNetworks => do
    let id ← arguments.resource 0 "vm_id"
    return configureNetworks id (← arguments.read 1 "networks" NetworkSpec.decoder)
  | .createDisk => createDisk <$> arguments.diskSize
  | .deleteDisk => deleteDisk <$> arguments.resource 0 "disk_id"
  | .hasDisk => hasDisk <$> arguments.resource 0 "disk_id"
  | .attachDisk => (fun (vm, disk) => attachDisk vm disk) <$> arguments.vmAndDisk
  | .detachDisk => (fun (vm, disk) => detachDisk vm disk) <$> arguments.vmAndDisk
  | .getDisks => getDisks <$> arguments.resource 0 "vm_id"
  | .snapshotDisk => snapshotDisk <$> arguments.resource 0 "disk_id"
  | .deleteSnapshot => deleteSnapshot <$> arguments.resource 0 "snapshot_id"

/-- Reads a request as a command. -/
def ofRequest (request : Request) : Except Failure Command :=
  match Method.ofName? request.method with
  | none => .error (.notImplemented request.method)
  | some method => (ofArguments ⟨request.arguments⟩ method).mapError .lifecycle

end Command

end CloudLifecycle

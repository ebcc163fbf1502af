import CloudLifecycle.Lifecycle.Networking
import CloudLifecycle.UserData

/-!
# Verbs on VMs

Creating a VM checks everything that the request names before it asks for the VM; one that does not
come up is terminated again.  Deleting a VM that is absent succeeds.  The networks of a VM can be
changed as long as its security groups and its private address stay.
-/

set_option autoImplicit false

namespace CloudLifecycle

/-- What the resource pool says about a new VM. -/
structure VmCloudProperties where
  instanceType : String
  keyName : Option String
  availabilityZone : Option String
  extra : Dict Json
deriving DecidableEq

def VmCloudProperties.decoder : Decoder VmCloudProperties := Decoder.withExtras "VmCloudProperties"
  (VmCloudProperties.mk <$> Fields.required "instance_type" Decoder.text
    <*> Fields.maybe "key_name" Decoder.text
    <*> Fields.maybe "availability_zone" Decoder.text)

/-- What a request for a new VM says. -/
structure VmRequest where
  agentId : String
  stemcell : ResourceId
  properties : VmCloudProperties
  networks : NetworkSpec
  env : Option Json
deriving DecidableEq

namespace Manager

variable (m : Manager)

/-- An outcome that is known already. -/
def ofOutcome {α : Type} (outcome : Except CpiError α) : Verb α := ExceptT.mk (pure outcome)

/-- The backend takes that many security groups for one VM. -/
def checkGroupLimit (names : List String) (groups : List SecurityGroupInfo) : Verb Unit := do
  match m.backend.maxSecurityGroups with
  | none => return ()
  | some limit =>
    if limit < groups.length then
      throw (.invalidArgument (m.backend.name ++ " instances accept at most " ++ limit.repr
        ++ " security group(s), got [" ++ ", ".intercalate names ++ "]"))

/-- The instance type is offered in the backend's region. -/
def requireInstanceType (instanceType : String) : Verb Unit := do
  let offered ← m.call (.listInstanceTypes m.backend.region)
  if !offered.contains instanceType then throw (.notFound .instanceType instanceType)

/-- The one key pair of a name, or of the default name. -/
def resolveKeyPair (explicit : Option String) : Verb KeyPairInfo := do
  match explicit.or m.options.defaultKeyName with
  | none => throw (.invalidArgument "key_name or default_key_name required")
  | some name =>
    match ← m.call (.findKeyPairs name) with
    | [pair] => return pair
    | _ => throw (.notFound .keyPair name)

/-- Checks the parts of a request and puts the parameters of the new VM together. -/
def prepareVm (name : String) (roles : NetworkRoles) (request : VmRequest) :
    Verb CreateVmParams := do
  let groupNames := roles.securityGroups m.options.defaultSecurityGroups
  let groups ← m.resolveSecurityGroups groupNames
  m.checkGroupLimit groupNames groups
  let image ← m.requireImage request.stemcell
  m.requireInstanceType request.properties.instanceType
  let keyPair ← m.resolveKeyPair request.properties.keyName
  let userData : UserData :=
    ⟨m.registryEndpoint, name, keyPair.publicKey, NetworkSpec.dnsServers request.networks⟩
  return {
    name
    imageId := image.id
    instanceType := request.properties.instanceType
    keyPair
    netId := roles.nic.netId
    fixedIp := roles.nic.fixedIp
    securityGroups := groups.map (·.id.text)
    availabilityZone := request.properties.availabilityZone.or m.options.availabilityZone
    userData := userData.encode }

/-- Asks for the VM to be terminated, whatever comes of it. -/
def giveUp (vm : ResourceId) : Verb Unit := ExceptT.lift do
  discard (Retry.call m.options.retry (Task.provider (.terminateInstance vm)))

/-- What the failed wait for a new VM is reported as. -/
def creationError (vm : ResourceId) : CpiError → CpiError
  | .timeout kind id targets => .creationFailed vm (CpiError.timeout kind id targets).message
  | .terminalState kind id observed expected =>
    .creationFailed vm (CpiError.terminalState kind id observed expected).message
  | other => other

/-- Waits until a new VM runs; one that does not is given up. -/
def awaitCreated (vm : ResourceId) : Verb Unit :=
  tryCatch (m.waitVm vm [.running]) fun e => do
    m.giveUp vm
    throw (creationError vm e)

/-- The settings that a new VM starts with. -/
def initialSettings (name : String) (request : VmRequest) : AgentSettings :=
  let settings := AgentSettings.initial name request.agentId request.networks request.env
  let settings :=
    if m.options.ephemeralDisk then settings.withEphemeralDisk Device.ephemeral else settings
  settings.withAgentProperties m.options.agentProperties

/-- Creates a VM and stores its settings. -/
def createVm (request : VmRequest) : Verb ResourceId := do
  let name := "vm-" ++ (← Task.freshName)
  let roles ← ofOutcome (NetworkRoles.classify request.networks)
  let params ← m.prepareVm name roles request
  let id ← m.call (.runInstance params)
  m.awaitCreated id
  let vm ← m.requireVm id
  m.applyNetworks roles vm
  Verb.settings (.update name (m.initialSettings name request))
  return id

/-- Removes settings that may be absent. -/
def dropSettings (key : String) : Verb Unit :=
  tryCatch (Verb.settings (.delete key)) fun
    | .settings (.notFound _) => pure ()
    | e => throw e

/-- Terminates a VM and removes its settings; an absent VM is passed over. -/
def deleteVm (id : ResourceId) : Verb Unit := do
  match ← m.describeVm id with
  | none => return ()
  | some vm =>
    if vm.state.isGone then return ()
    m.call (.terminateInstance id)
    m.waitVm id [.terminated, .ceased, .noExist]
    dropSettings vm.name

/-- The VM exists. -/
def hasVm (id : ResourceId) : Verb Bool := do
  return (← m.describeVm id).any fun vm => !vm.state.isGone

/-- Restarts a VM and waits until it runs. -/
def rebootVm (id : ResourceId) : Verb Unit := do
  discard (m.requireVm id)
  m.call (.restartInstance id)
  m.waitVm id [.running]

/-- The VM is in the desired groups and in no others. -/
def sameGroups (desired : List SecurityGroupInfo) (current : List String) : Bool :=
  desired.length = current.length &&
    desired.all fun group => current.any fun c => c = group.name || c = group.id.text

/-- Changes the networks of a VM, as far as that needs no new VM, and stores them. -/
def configureNetworks (id : ResourceId) (networks : NetworkSpec) : Verb Unit := do
  let vm ← m.requireVm id
  let roles ← ofOutcome (NetworkRoles.classify networks)
  let groupNames := roles.securityGroups m.options.defaultSecurityGroups
  let desired ← m.resolveSecurityGroups groupNames
  if !sameGroups desired vm.securityGroups then
    throw (.notSupported ("security groups change requires VM recreation: current ["
      ++ ", ".intercalate vm.securityGroups ++ "], desired ["
      ++ ", ".intercalate groupNames ++ "]"))
  if let some ip := roles.privateIp then
    if vm.privateIp ≠ some ip then
      throw (.notSupported ("IP address change requires VM recreation: "
        ++ vm.privateIp.getD "none" ++ " to " ++ ip))
  m.applyNetworks roles vm
  let settings ← Verb.settings (.read vm.name)
  Verb.settings (.update vm.name { settings with networks })

end Manager

end CloudLifecycle

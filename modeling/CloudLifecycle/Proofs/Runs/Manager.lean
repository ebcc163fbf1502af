import CloudLifecycle.Director.Response
import CloudLifecycle.Proofs.Runs.Calls

/-!
# Which calls the parts of the verbs make

Looking a resource up and waiting for it call its description and nothing else.  The checks that
precede a new VM only look (`calls_prepareVm`), and applying networks makes calls on one VM and on
floating addresses (`calls_applyNetworks`); a change of networks makes its checks before that
(`configureNetworks_eq`).  Of all commands only six ever touch the settings store (`calls_perform`).
-/

set_option autoImplicit false

namespace CloudLifecycle

/-- The command reads or changes settings. -/
def Command.UsesSettings : Command → Prop
  | .createVm _ | .deleteVm _ | .configureNetworks _ _ | .attachDisk _ _ | .detachDisk _ _
  | .getDisks _ => True
  | _ => False

namespace Manager

open Verb

variable (m : Manager) {S : ProviderCall → Prop}

theorem calls_call (c : ProviderCall) : (m.call c).Calls (· = c) :=
  calls_mapError (Retry.calls_call _ (Task.calls_provider c)) _

theorem calls_describeVm (id : ResourceId) : (m.describeVm id).Calls (· = .describeVm id) :=
  calls_mapError (Retry.calls_describe _ (Task.calls_provider _)) _

theorem calls_describeVolume (id : ResourceId) :
    (m.describeVolume id).Calls (· = .describeVolume id) :=
  calls_mapError (Retry.calls_describe _ (Task.calls_provider _)) _

theorem calls_describeSnapshot (id : ResourceId) :
    (m.describeSnapshot id).Calls (· = .describeSnapshot id) :=
  calls_mapError (Retry.calls_describe _ (Task.calls_provider _)) _

theorem calls_describeImage (id : ResourceId) :
    (m.describeImage id).Calls (· = .describeImage id) :=
  calls_mapError (Retry.calls_describe _ (Task.calls_provider _)) _

theorem calls_describeFloatingIp (address : String) :
    (m.describeFloatingIp address).Calls (· = .describeFloatingIp address) :=
  calls_mapError (Retry.calls_describe _ (Task.calls_provider _)) _

theorem calls_requireVm (id : ResourceId) : (m.requireVm id).Calls (· = .describeVm id) := by
  refine (m.calls_describeVm id).bind fun found => ?_
  cases found with
  | none => exact calls_throw _
  | some vm =>
    dsimp only
    split
    · exact calls_throw _
    · exact calls_pure _

theorem calls_requireVolume (id : ResourceId) :
    (m.requireVolume id).Calls (· = .describeVolume id) := by
  refine (m.calls_describeVolume id).bind fun found => ?_
  cases found with
  | none => exact calls_throw _
  | some volume =>
    dsimp only
    split
    · exact calls_throw _
    · exact calls_pure _

theorem calls_requireImage (id : ResourceId) :
    (m.requireImage id).Calls (· = .describeImage id) := by
  refine (m.calls_describeImage id).bind fun found => ?_
  cases found with
  | none => exact calls_throw _
  | some image => exact calls_pure _

theorem calls_waitVm (id : ResourceId) (targets : List VmState) :
    (m.waitVm id targets).Calls (· = .describeVm id) :=
  (m.options.waiter.calls_wait _ _ _ ((m.calls_describeVm id).bind fun _ => calls_pure _)).discard

theorem calls_waitVolume (id : ResourceId) (targets : List VolumeState) :
    (m.waitVolume id targets).Calls (· = .describeVolume id) :=
  (m.options.waiter.calls_wait _ _ _
    ((m.calls_describeVolume id).bind fun _ => calls_pure _)).discard

theorem calls_waitSnapshot (id : ResourceId) (targets : List SnapshotState) :
    (m.waitSnapshot id targets).Calls (· = .describeSnapshot id) :=
  (m.options.waiter.calls_wait _ _ _
    ((m.calls_describeSnapshot id).bind fun _ => calls_pure _)).discard

/-! ## New VMs and networks -/

theorem calls_resolveSecurityGroups (names : List String) :
    (m.resolveSecurityGroups names).Calls (· = .listSecurityGroups) :=
  (m.calls_call _).bind fun _ => calls_outcome _

/-- The calls that checking a request for a new VM may make: they only look. -/
def PreparingCall : ProviderCall → Prop
  | .listSecurityGroups | .describeImage _ | .listInstanceTypes _ | .findKeyPairs _ => True
  | _ => False

theorem calls_prepareVm (name : String) (roles : NetworkRoles) (request : VmRequest) :
    (m.prepareVm name roles request).Calls PreparingCall := by
  have looks {α : Type} {verb : Verb α} {c : ProviderCall} (h : verb.Calls (· = c))
      (hc : PreparingCall c) : verb.Calls PreparingCall :=
    h.mono fun _ e => e ▸ hc
  refine (looks (m.calls_resolveSecurityGroups _) trivial).bind fun groups => ?_
  refine Calls.bind ?limit fun _ => ?_
  case limit =>
    unfold checkGroupLimit
    split
    · exact calls_pure _
    · split
      · exact calls_throw _
      · exact calls_pure _
  refine (looks (m.calls_requireImage _) trivial).bind fun image => ?_
  refine Calls.bind ?offered fun _ => ?_
  case offered =>
    refine (looks (m.calls_call (.listInstanceTypes _)) trivial).bind fun offered => ?_
    split
    · exact calls_throw _
    · exact calls_pure _
  refine Calls.bind ?pair fun pair => calls_pure _
  case pair =>
    unfold resolveKeyPair
    split
    · exact calls_throw _
    · refine (looks (m.calls_call (.findKeyPairs _)) trivial).bind fun pairs => ?_
      split
      · exact calls_pure _
      · exact calls_throw _

/-- The VM can take the networks as it is: its security groups and its address stay. -/
def fitNetworks (groupNames : List String) (desired : List SecurityGroupInfo) (roles : NetworkRoles)
    (vm : VmInfo) : Except CpiError Unit :=
  if !sameGroups desired vm.securityGroups then
    .error (.notSupported ("security groups change requires VM recreation: current ["
      ++ ", ".intercalate vm.securityGroups ++ "], desired ["
      ++ ", ".intercalate groupNames ++ "]"))
  else match roles.privateIp with
    | none => .ok ()
    | some ip =>
      if vm.privateIp ≠ some ip then
        .error (.notSupported ("IP address change requires VM recreation: "
          ++ vm.privateIp.getD "none" ++ " to " ++ ip))
      else .ok ()

/-- Stores the networks in the settings of a VM. -/
def storeNetworks (vm : VmInfo) (networks : NetworkSpec) : Verb Unit := do
  let settings ← Verb.settings (.read vm.name)
  Verb.settings (.update vm.name { settings with networks })

/-- A change of networks goes through its checks, and then the networks are applied and stored. -/
theorem configureNetworks_eq (id : ResourceId) (networks : NetworkSpec) :
    m.configureNetworks id networks = (do
      let vm ← m.requireVm id
      let roles ← ofOutcome (NetworkRoles.classify networks)
      let groupNames := roles.securityGroups m.options.defaultSecurityGroups
      let desired ← m.resolveSecurityGroups groupNames
      ofOutcome (fitNetworks groupNames desired roles vm)
      m.applyNetworks roles vm
      storeNetworks vm networks) := by
  refine bind_congr fun vm => bind_congr fun roles => bind_congr fun desired => ?_
  unfold fitNetworks
  dsimp only
  split
  · rfl
  · cases roles.privateIp with
    | none => rfl
    | some ip =>
      dsimp only
      split <;> rfl

/-- The calls that applying networks may make: on the VM, and on floating addresses. -/
def NetworkCall (vm : ResourceId) : ProviderCall → Prop
  | .describeVm id | .restartInstance id | .bindStaticAddress _ id _
  | .associateFloatingIp _ id => id = vm
  | .describeFloatingIp _ | .dissociateFloatingIp _ => True
  | _ => False

theorem calls_applyNetworks (roles : NetworkRoles) (vm : VmInfo) :
    (m.applyNetworks roles vm).Calls (NetworkCall vm.id) := by
  have allowed {α : Type} {verb : Verb α} {c : ProviderCall} (h : verb.Calls (· = c))
      (hc : NetworkCall vm.id c) : verb.Calls (NetworkCall vm.id) :=
    h.mono fun _ e => e ▸ hc
  refine Calls.bind ?primary fun _ => ?vip
  case primary =>
    unfold applyPrimary
    split
    · refine (allowed (m.calls_call (.bindStaticAddress _ vm.id _)) rfl).bind fun _ => ?_
      refine (allowed (m.calls_call (.restartInstance vm.id)) rfl).bind fun _ => ?_
      exact allowed (m.calls_waitVm _ _) rfl
    · exact calls_pure _
  case vip =>
    split
    · refine (allowed (m.calls_describeFloatingIp _) trivial).bind fun found => ?_
      split
      · exact calls_throw _
      · split
        · split
          · exact calls_pure _
          · exact calls_throw _
        · exact allowed (m.calls_call _) rfl
    · unfold dissociateStaleVip
      split
      · exact calls_pure _
      · refine (allowed (m.calls_describeFloatingIp _) trivial).bind fun found => ?_
        split
        · exact calls_pure _
        · exact allowed (m.calls_call _) trivial

theorem calls_giveUp (vm : ResourceId) : (m.giveUp vm).Calls (· = .terminateInstance vm) :=
  calls_lift ((Retry.calls_call _ (Task.calls_provider _)).bind fun _ => .done _)

/-- Waiting for a new VM describes it, and terminates it where it does not come up. -/
theorem calls_awaitCreated (vm : ResourceId) :
    (m.awaitCreated vm).Calls fun c => c = .describeVm vm ∨ c = .terminateInstance vm := by
  refine Calls.tryCatch ((m.calls_waitVm vm _).mono fun _ => .inl) fun e => ?_
  exact ((m.calls_giveUp vm).mono fun _ => .inr).bind fun _ => calls_throw _

/-! ## Commands that leave the settings store alone -/

theorem calls_createDisk (sizeMib : Nat) : (m.createDisk sizeMib).Calls fun _ => True := by
  refine (calls_outcome _).bind fun gib => ?_
  refine (calls_lift Task.calls_freshName).bind fun fresh => ?_
  refine (m.calls_call _).any.bind fun id => ?_
  exact (m.calls_waitVolume _ _).any.bind fun _ => calls_pure _

theorem calls_deleteDisk (id : ResourceId) : (m.deleteDisk id).Calls fun _ => True := by
  refine (m.calls_describeVolume id).any.bind fun found => ?_
  cases found with
  | none => exact calls_pure _
  | some volume =>
    have remove : Calls (fun _ => True) (do
        m.call (.deleteVolume id)
        m.waitVolume id [.deleted, .ceased, .noExist]) :=
      (m.calls_call _).any.bind fun _ => (m.calls_waitVolume _ _).any
    dsimp only
    split
    · exact calls_pure _
    · split
      · exact (calls_throw _).bind fun _ => remove
      · exact remove

theorem calls_rebootVm (id : ResourceId) : (m.rebootVm id).Calls fun _ => True :=
  (m.calls_requireVm id).any.discard.bind fun _ =>
    (m.calls_call _).any.bind fun _ => (m.calls_waitVm _ _).any

theorem calls_snapshotDisk (disk : ResourceId) : (m.snapshotDisk disk).Calls fun _ => True := by
  refine (m.calls_requireVolume disk).any.discard.bind fun _ => ?_
  refine (calls_lift Task.calls_freshName).bind fun fresh => ?_
  refine (m.calls_call _).any.bind fun id => ?_
  exact (m.calls_waitSnapshot _ _).any.bind fun _ => calls_pure _

theorem calls_deleteSnapshot (id : ResourceId) : (m.deleteSnapshot id).Calls fun _ => True := by
  refine (m.calls_describeSnapshot id).any.bind fun found => ?_
  cases found with
  | none => exact calls_pure _
  | some snapshot =>
    dsimp only
    split
    · exact calls_pure _
    · exact (m.calls_call _).any.bind fun _ => (m.calls_waitSnapshot _ _).any

theorem calls_createStemcell (properties : StemcellProperties) :
    (m.createStemcell properties).Calls fun _ => True := by
  unfold createStemcell
  split
  · exact (m.calls_requireImage _).any.bind fun _ => calls_pure _
  · dsimp only
    split
    · -- A refused name ends the verb: nothing is asked after the failure.
      exact calls_throw _
    · refine (m.calls_call _).any.bind fun images => ?_
      cases images with
      | nil => exact calls_throw _
      | cons image _ => exact calls_pure _

theorem calls_deleteStemcell (id : ResourceId) : (m.deleteStemcell id).Calls fun _ => True := by
  refine (m.calls_describeImage id).any.bind fun found => ?_
  cases found with
  | none => exact calls_pure _
  | some _ => exact (m.calls_call _).any

/-- Looking the machine's own id up makes no call to the backend. -/
theorem calls_currentVmId : m.currentVmId.Calls S := by
  have lookUp : Self.lookUp.Calls S := by
    refine Program.Asks.bind (.request trivial) fun raw => ?_
    dsimp only
    split
    · exact Program.Asks.bind (.request trivial) fun _ => .done _
    · exact .done _
  have find : Self.id.Calls S := by
    refine Program.Asks.bind (.request trivial) fun known => ?_
    cases known with
    | some id => exact .done _
    | none =>
      refine Program.Asks.bind (.request trivial) fun _ => ?_
      refine Program.Asks.bind (.request trivial) fun known => ?_
      have leave (outcome : ProviderResult ResourceId) : Task.Calls S (do
          Program.request Action.unlockSelf
          return outcome : Task _) := Program.Asks.bind (.request trivial) fun _ => .done _
      cases known with
      | some id => exact leave (.ok id)
      | none => exact Program.Asks.bind lookUp leave
  unfold currentVmId
  split
  · exact calls_mapError find _
  · exact calls_throw _

/-- A command that does not use settings leaves the settings store alone. -/
theorem calls_perform {command : Command} (h : ¬ command.UsesSettings) :
    (m.perform command).Calls fun _ => True := by
  have returns {α : Type} {verb : Verb α} {f : α → Json} (hv : verb.Calls fun _ => True) :
      Calls (fun _ => True) (do return f (← verb) : Verb Json) := hv.bind fun _ => calls_pure _
  cases command with
  | info | setVmMetadata => exact calls_pure _
  | currentVmId => exact returns m.calls_currentVmId
  | createStemcell properties => exact returns (m.calls_createStemcell properties)
  | deleteStemcell id => exact (m.calls_deleteStemcell id).bind fun _ => calls_pure _
  | hasVm id => exact returns ((m.calls_describeVm id).any.bind fun _ => calls_pure _)
  | rebootVm id => exact (m.calls_rebootVm id).bind fun _ => calls_pure _
  | createDisk sizeMib => exact returns (m.calls_createDisk sizeMib)
  | deleteDisk id => exact (m.calls_deleteDisk id).bind fun _ => calls_pure _
  | hasDisk id => exact returns ((m.calls_describeVolume id).any.bind fun _ => calls_pure _)
  | snapshotDisk disk => exact returns (m.calls_snapshotDisk disk)
  | deleteSnapshot id => exact (m.calls_deleteSnapshot id).bind fun _ => calls_pure _
  | createVm _ | deleteVm _ | configureNetworks _ _ | attachDisk _ _ | detachDisk _ _
  | getDisks _ => exact absurd trivial h

end Manager

end CloudLifecycle

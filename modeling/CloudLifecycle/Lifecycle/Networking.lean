import CloudLifecycle.Lifecycle.Manager
import CloudLifecycle.Network.Roles

/-!
# Applying networks to a VM

A manual network with a router binds the fixed address and restarts the VM.  A vip network
associates its floating address, which no other VM may hold; without a vip network a floating
address that the VM still has is taken away.
-/

set_option autoImplicit false

namespace CloudLifecycle.Manager

variable (m : Manager)

/-- The groups with the given names or ids, all of which have to exist. -/
def resolveGroups (existing : List SecurityGroupInfo) (names : List String) :
    Except CpiError (List SecurityGroupInfo) :=
  names.mapM fun name =>
    match existing.find? fun group => group.name = name || group.id.text = name with
    | some group => .ok group
    | none => .error (.notFound .securityGroup name)

/-- Looks the security groups up at the backend. -/
def resolveSecurityGroups (names : List String) : Verb (List SecurityGroupInfo) := do
  let existing ← m.call .listSecurityGroups
  liftExcept (resolveGroups existing names)
where
  liftExcept {α : Type} (e : Except CpiError α) : Verb α := ExceptT.mk (pure e)

/-- Binds the address at the router and restarts the VM, so that it takes the address. -/
def bindStaticAddress (routerId ip : String) (vm : VmInfo) : Verb Unit := do
  m.call (.bindStaticAddress routerId vm.id ip)
  m.call (.restartInstance vm.id)
  m.waitVm vm.id [.running]

/-- Gives the VM the floating address of a vip network. -/
def associateVip (vip : VipNetwork) (vm : VmInfo) : Verb Unit := do
  match ← m.describeFloatingIp vip.ip with
  | none => throw (.notFound .floatingIp vip.ip)
  | some floatingIp =>
    match floatingIp.associatedVm with
    | some holder =>
      if holder = vm.id then return ()
      else throw (.cloudError ("Floating IP `" ++ vip.ip ++ "' is already associated with `"
        ++ holder.text ++ "'"))
    | none => m.call (.associateFloatingIp floatingIp.id vm.id)

/-- Takes away the floating address that the VM was reported with. -/
def dissociateStaleVip (vm : VmInfo) : Verb Unit := do
  match vm.floatingIp with
  | none => return ()
  | some address =>
    match ← m.describeFloatingIp address with
    | none => return ()
    | some floatingIp => m.call (.dissociateFloatingIp floatingIp.id)

/-- Applies the primary network. -/
def applyPrimary (primary : PrimaryNetwork) (vm : VmInfo) : Verb Unit :=
  match primary with
  | .manual _ _ ip (some routerId) => m.bindStaticAddress routerId ip vm
  | _ => pure ()

/-- Applies the networks of a VM by their roles. -/
def applyNetworks (roles : NetworkRoles) (vm : VmInfo) : Verb Unit := do
  m.applyPrimary roles.primary vm
  match roles.vip with
  | some vip => m.associateVip vip vm
  | none => m.dissociateStaleVip vm

end CloudLifecycle.Manager

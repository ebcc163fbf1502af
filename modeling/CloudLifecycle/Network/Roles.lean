import CloudLifecycle.Error
import CloudLifecycle.Network.Spec

/-!
# Roles of a VM's networks

A VM has exactly one primary network, dynamic or manual, and at most one vip network with a
floating address.  `NetworkRoles.classify` sorts the entries of a specification into these roles,
in the order of their names, and reports the first entry that does not fit; it also gathers the
security groups that the entries name, each once and in ascending order.
-/

set_option autoImplicit false

namespace CloudLifecycle

/-- The network of the VM's single interface. -/
inductive PrimaryNetwork where
  | dynamic (name : String) (netId : Option String)
  | manual (name netId ip : String) (routerId : Option String)
deriving DecidableEq, Repr

namespace PrimaryNetwork

def name : PrimaryNetwork → String
  | .dynamic name _ => name
  | .manual name _ _ _ => name

def netId : PrimaryNetwork → Option String
  | .dynamic _ netId => netId
  | .manual _ netId _ _ => some netId

end PrimaryNetwork

/-- The network that brings a floating address. -/
structure VipNetwork where
  name : String
  ip : String
deriving DecidableEq, Repr

/-- What a request for a new VM says about its interface. -/
structure NicParams where
  netId : Option String
  fixedIp : Option String
deriving DecidableEq, Repr

/-- The networks of a VM by role, with the security groups that they name. -/
structure NetworkRoles where
  primary : PrimaryNetwork
  vip : Option VipNetwork
  namedGroups : List String
deriving DecidableEq, Repr

/-- The items in ascending order, each once. -/
def sortedOnce (items : List String) : List String :=
  (Dict.ofList (items.map fun item => (item, ()))).keys

/-- A text, unless it is empty. -/
def nonEmpty? (s : String) : Option String := if s.isEmpty then none else some s

namespace NetworkRoles

/-- The roles found among the entries so far. -/
structure Draft where
  primary : Option PrimaryNetwork
  vip : Option VipNetwork
  groups : List String

/-- The role of a manual network; it needs a network and an address. -/
def manualNetwork (name : String) (entry : NetworkEntry) : Except CpiError PrimaryNetwork :=
  match entry.cloudProperties.netId with
  | none => .error (.invalidSpec "manual network must have net_id")
  | some netId =>
    match entry.ip.bind nonEmpty? with
    | none => .error (.invalidSpec ("manual network `" ++ name ++ "' must have an ip"))
    | some ip => .ok (.manual name netId ip entry.cloudProperties.routerId)

/-- The role of a vip network; it needs an address. -/
def vipNetwork (name : String) (entry : NetworkEntry) : Except CpiError VipNetwork :=
  match entry.ip.bind nonEmpty? with
  | none => .error (.invalidSpec ("no IP provided for vip network `" ++ name ++ "'"))
  | some ip => .ok ⟨name, ip⟩

/-- Sets the primary network, which may be done once. -/
def Draft.setPrimary (draft : Draft) (network : Except CpiError PrimaryNetwork) :
    Except CpiError Draft :=
  match draft.primary with
  | some _ => .error (.invalidSpec "must have exactly one dynamic or manual network")
  | none => network.map fun p => { draft with primary := some p }

/-- Sets the vip network, which may be done once. -/
def Draft.setVip (draft : Draft) (network : Except CpiError VipNetwork) : Except CpiError Draft :=
  match draft.vip with
  | some _ => .error (.invalidSpec "more than one vip network")
  | none => network.map fun v => { draft with vip := some v }

/-- Takes in one entry. -/
def Draft.addEntry (draft : Draft) (name : String) (entry : NetworkEntry) :
    Except CpiError Draft := do
  let draft ← match entry.kind.getD "manual" with
    | "dynamic" => draft.setPrimary (.ok (.dynamic name entry.cloudProperties.netId))
    | "manual" => draft.setPrimary (manualNetwork name entry)
    | "vip" => draft.setVip (vipNetwork name entry)
    | other => .error (.invalidSpec ("invalid network type `" ++ other
        ++ "': can only handle `dynamic', `manual' or `vip' network types"))
  pure { draft with groups := draft.groups ++ entry.cloudProperties.securityGroups }

/-- Takes in the entries one after another. -/
def gather : List (String × NetworkEntry) → Draft → Except CpiError Draft
  | [], draft => .ok draft
  | (name, entry) :: rest, draft => do
    let draft ← draft.addEntry name entry
    gather rest draft

/-- The roles of the networks of a specification. -/
def classify (spec : NetworkSpec) : Except CpiError NetworkRoles := do
  let draft ← gather spec.entries ⟨none, none, []⟩
  match draft.primary with
  | none => .error (.invalidSpec "at least one dynamic or manual network required")
  | some primary => .ok ⟨primary, draft.vip, sortedOnce draft.groups⟩

/-- The security groups that the networks name, or the defaults where they name none. -/
def securityGroups (roles : NetworkRoles) (defaults : List String) : List String :=
  if roles.namedGroups.isEmpty then sortedOnce defaults else roles.namedGroups

/-- The private address of a manual network. -/
def privateIp (roles : NetworkRoles) : Option String :=
  match roles.primary with
  | .manual _ _ ip _ => some ip
  | .dynamic _ _ => none

def nic (roles : NetworkRoles) : NicParams := ⟨roles.primary.netId, roles.privateIp⟩

end NetworkRoles

end CloudLifecycle

import CloudLifecycle.Json.Fields

/-!
# Network specifications

The director describes the networks of a VM as a dictionary of entries.  The known fields of an
entry and of its cloud properties are typed; all others are kept and written back.
-/

set_option autoImplicit false

namespace CloudLifecycle

/-- What a network entry says to the cloud. -/
structure NetworkCloudProperties where
  netId : Option String
  securityGroups : List String
  routerId : Option String
  subnet : Option String
  extra : Dict Json
deriving DecidableEq

/-- One entry of a network specification. -/
structure NetworkEntry where
  /-- `dynamic`, `manual` or `vip`; without it the entry is manual. -/
  kind : Option String
  ip : Option String
  netmask : Option String
  gateway : Option String
  dns : Option (List String)
  defaults : List String
  cloudProperties : NetworkCloudProperties
  extra : Dict Json
deriving DecidableEq

/-- Networks by name. -/
abbrev NetworkSpec : Type := Dict NetworkEntry

/-- A field that is left out when there is nothing to write. -/
def Json.fieldIf (key : String) : Option Json → List (String × Json)
  | none => []
  | some value => [(key, value)]

/-- A list as a field that is left out when it is empty. -/
def Json.listIf (key : String) (items : List String) : List (String × Json) :=
  if items.isEmpty then [] else [(key, Json.texts items)]

namespace NetworkCloudProperties

def empty : NetworkCloudProperties := ⟨none, [], none, none, Dict.empty⟩

instance : Inhabited NetworkCloudProperties := ⟨empty⟩

def decoder : Decoder NetworkCloudProperties := Decoder.withExtras "NetworkCloudProperties"
  (NetworkCloudProperties.mk <$> Fields.maybe "net_id" Decoder.text
    <*> Fields.withDefault "security_groups" (Decoder.list Decoder.text) []
    <*> Fields.maybe "router_id" Decoder.text
    <*> Fields.maybe "subnet" Decoder.text)

def toJson (p : NetworkCloudProperties) : Json := .object <|
  Json.fieldIf "net_id" (p.netId.map .text) ++ Json.listIf "security_groups" p.securityGroups
    ++ Json.fieldIf "router_id" (p.routerId.map .text) ++ Json.fieldIf "subnet" (p.subnet.map .text)
    ++ p.extra.entries

end NetworkCloudProperties

namespace NetworkEntry

def decoder : Decoder NetworkEntry := Decoder.withExtras "NetworkEntry"
  (NetworkEntry.mk <$> Fields.maybe "type" Decoder.text
    <*> Fields.maybe "ip" Decoder.text
    <*> Fields.maybe "netmask" Decoder.text
    <*> Fields.maybe "gateway" Decoder.text
    <*> Fields.maybe "dns" (Decoder.list Decoder.text)
    <*> Fields.withDefault "default" (Decoder.list Decoder.text) []
    <*> Fields.withDefault "cloud_properties" NetworkCloudProperties.decoder .empty)

def toJson (e : NetworkEntry) : Json := .object <|
  Json.fieldIf "type" (e.kind.map .text) ++ Json.fieldIf "ip" (e.ip.map .text)
    ++ Json.fieldIf "netmask" (e.netmask.map .text) ++ Json.fieldIf "gateway" (e.gateway.map .text)
    ++ Json.fieldIf "dns" (e.dns.map Json.texts) ++ Json.listIf "default" e.defaults
    ++ [("cloud_properties", e.cloudProperties.toJson)] ++ e.extra.entries

end NetworkEntry

namespace NetworkSpec

def decoder : Decoder NetworkSpec := Decoder.dict NetworkEntry.decoder

def toJson (spec : NetworkSpec) : Json := Json.ofDict (spec.mapValues NetworkEntry.toJson)

/-- The DNS servers of the first entry that lists any. -/
def dnsServers (spec : NetworkSpec) : Option (List String) :=
  (spec.values.filterMap (·.dns)).find? fun servers => !servers.isEmpty

end NetworkSpec

end CloudLifecycle

import CloudLifecycle.Json.Printer
import CloudLifecycle.Network.Spec
import CloudLifecycle.Settings.Device

/-!
# Agent settings

The document that the agent of a VM reads when it boots: the name of the VM, the agent's id,
networks, disks, the environment, and agent properties that are kept as they are.
-/

set_option autoImplicit false

namespace CloudLifecycle

/-- The disks section of the settings. -/
structure DiskSettings where
  system : String
  ephemeral : Option String
  persistent : DeviceAllocation
deriving DecidableEq

/-- The settings of one VM's agent. -/
structure AgentSettings where
  vmName : String
  agentId : String
  networks : NetworkSpec
  disks : DiskSettings
  env : Option Json
  /-- Agent properties, kept as they are. -/
  extra : Dict Json
deriving DecidableEq

namespace DiskSettings

/-- The system disk alone. -/
def initial : DiskSettings := ⟨Device.system, none, Dict.empty⟩

def decoder : Decoder DiskSettings := Decoder.record "DiskSettings"
  (DiskSettings.mk <$> Fields.required "system" Decoder.text
    <*> Fields.maybe "ephemeral" Decoder.text
    <*> Fields.withDefault "persistent" (Decoder.dict Decoder.text) Dict.empty)

def toJson (disks : DiskSettings) : Json := .object <|
  [("system", .text disks.system)] ++ Json.fieldIf "ephemeral" (disks.ephemeral.map .text)
    ++ [("persistent", Json.ofDict (disks.persistent.mapValues .text))]

end DiskSettings

namespace AgentSettings

/-- The settings of a new VM. -/
def initial (vmName agentId : String) (networks : NetworkSpec) (env : Option Json) :
    AgentSettings :=
  ⟨vmName, agentId, networks, .initial, env, Dict.empty⟩

/-- Names a device for the ephemeral disk. -/
def withEphemeralDisk (settings : AgentSettings) (device : String) : AgentSettings :=
  { settings with disks := { settings.disks with ephemeral := some device } }

/-- Keys of the typed sections. -/
def reservedKeys : List String := ["vm", "agent_id", "networks", "disks", "env"]

/-- Adds the agent properties that are new, but none under the key of a typed section. -/
def withAgentProperties (settings : AgentSettings) (properties : Dict Json) : AgentSettings :=
  let own : Dict Json :=
    ⟨properties.entries.filter fun e => !reservedKeys.contains e.1, properties.ascending.filter _⟩
  { settings with extra := settings.extra.addNew own }

/-- The record with the name of the VM. -/
def vmDecoder : Decoder String := Decoder.record "VmSettings" (Fields.required "name" Decoder.text)

def decoder : Decoder AgentSettings := Decoder.withExtras "AgentSettings"
  (AgentSettings.mk <$> Fields.required "vm" vmDecoder
    <*> Fields.required "agent_id" Decoder.text
    <*> Fields.withDefault "networks" NetworkSpec.decoder Dict.empty
    <*> Fields.withDefault "disks" DiskSettings.decoder .initial
    <*> Fields.maybe "env" Decoder.any)

def toJson (settings : AgentSettings) : Json := .object <|
  [("vm", .object [("name", .text settings.vmName)]), ("agent_id", .text settings.agentId),
    ("networks", settings.networks.toJson), ("disks", settings.disks.toJson)]
    ++ Json.fieldIf "env" settings.env ++ settings.extra.entries

/-- The text that is stored. -/
def render (settings : AgentSettings) : String := settings.toJson.render

end AgentSettings

end CloudLifecycle

import CloudLifecycle.Config.Options
import CloudLifecycle.Yaml.Error

/-!
# The options document

An options document has a section for the cloud, which names the one that is used, and sections
for its options, the registry and the agent.  These may stand at the root or below the properties
of the cloud section.  `Config.ofJson` reports all required parameters that are missing before it
reads any.
-/

set_option autoImplicit false

namespace CloudLifecycle

/-- Why a file could not be read. -/
inductive FileError where
  | notThere
  | isDirectory
  /-- The bytes are no text. -/
  | notText
  | other (text : String)
deriving DecidableEq, Repr

def FileError.message : FileError → String
  | .notThere => "No such file or directory (os error 2)"
  | .isDirectory => "Is a directory (os error 21)"
  | .notText => "stream did not contain valid UTF-8"
  | .other text => text

/-- Why there is no configuration. -/
inductive ConfigError where
  /-- No file was found where options files are looked for. -/
  | noFile
  | missingFile (path : String)
  | missingParameters (names : List String)
  | unknownPlugin (name : String)
  | invalid (text : String)
  | yaml (cause : YamlError)
  | json (cause : DecodeError)
  | file (cause : FileError)
deriving DecidableEq

namespace ConfigError

/-- The message of an error that another one lies behind. -/
def cause? : ConfigError → Option String
  | .yaml cause => some cause.message
  | .json cause => some cause.message
  | .file cause => some cause.message
  | _ => none

def message : ConfigError → String
  | .noFile =>
    "CPI config file not found. Looked in:\n- BOSH_CPI_CONFIG environment variable\n"
      ++ "- current directory: cpi.yml, cpi.json\n- ~/.config/bosh-cpi/cpi.yml\n"
      ++ "or pass --config explicitly"
  | .missingFile path => "Config file does not exist: " ++ path
  | .missingParameters names =>
    "missing configuration parameters > " ++ ", ".intercalate names
  | .unknownPlugin name =>
    "Unknown cloud plugin `" ++ name ++ "': expected qingcloud or hwcloud"
  | .invalid text => "Invalid configuration: " ++ text
  | .yaml cause => "YAML parse error: " ++ cause.message
  | .json cause => "JSON parse error: " ++ cause.message
  | .file cause => "IO error: " ++ cause.message

end ConfigError

/-- A configuration. -/
structure Config where
  cloud : CloudOptions
  registry : RegistryOptions
  /-- Properties that go into the settings of every VM. -/
  agent : Dict Json
deriving DecidableEq

/-- The clouds that can be configured. -/
inductive Plugin where
  | qingcloud
  | hwcloud
deriving DecidableEq, Repr

/-- A parameter that has to be there, with all its spellings. -/
structure RequiredParameter where
  name : String
  spellings : List String
deriving DecidableEq, Repr

/-- The fields of a section. -/
abbrev ConfigSection : Type := List (String × Json)

namespace Plugin

def name : Plugin → String
  | .qingcloud => "qingcloud"
  | .hwcloud => "hwcloud"

/-- The cloud of a name. -/
def ofName? (text : String) : Option Plugin :=
  [qingcloud, hwcloud].find? fun plugin => plugin.name = text

/-- The parameters that a cloud has to have. -/
def required : Plugin → List RequiredParameter
  | .qingcloud => [⟨"region", ["region", "zone"]⟩, ⟨"access_key_id", ["access_key_id"]⟩,
      ⟨"secret_access_key", ["secret_access_key"]⟩]
  | .hwcloud => [⟨"url", ["url"]⟩, ⟨"access_key_id", ["access_key_id", "HWSAccessKeyId"]⟩,
      ⟨"secret_key", ["secret_key", "key", "Key"]⟩,
      ⟨"region_name", ["region_name", "RegionName"]⟩]

/-- Reads the options of a cloud. -/
def readOptions (plugin : Plugin) (value : Json) : Except DecodeError CloudOptions :=
  match plugin with
  | .qingcloud => .qingcloud <$> QingCloudOptions.decoder.fromJson value
  | .hwcloud => .hwcloud <$> HwCloudOptions.decoder.fromJson value

end Plugin

namespace RequiredParameter

/-- The parameters that the registry has to have. -/
def registry : List RequiredParameter :=
  [⟨"endpoint", ["endpoint"]⟩, ⟨"user", ["user"]⟩, ⟨"password", ["password"]⟩]

/-- A section has a value for a parameter under one of its spellings. -/
def isGiven (parameter : RequiredParameter) (fields : ConfigSection) : Bool :=
  parameter.spellings.any fun spelling =>
    match fields.lookup spelling with
    | none => false
    | some .null => false
    | some _ => true

/-- The parameters that a section lacks, under its name. -/
def missing (sectionName : String) (fields : ConfigSection) (required : List RequiredParameter) :
    List String :=
  (required.filter fun p => !p.isGiven fields).map fun p => sectionName ++ ":" ++ p.name

end RequiredParameter

namespace Config

/-- The section under a key, if the value there is one. -/
def section? (fields : ConfigSection) (key : String) : Option ConfigSection :=
  (fields.lookup key).bind Json.fields?

/-- The sections that options are read from. -/
structure Sections where
  plugin : Plugin
  options : ConfigSection
  registry : ConfigSection
  agent : ConfigSection

/-- Finds the sections of a document. -/
def sections (value : Json) : Except ConfigError Sections := do
  let some root := value.fields? | throw (.invalid "top level must be a mapping")
  let some cloud := section? root "cloud" | throw (.missingParameters ["cloud:plugin"])
  let some name := (cloud.lookup "plugin").bind Json.asText?
    | throw (.missingParameters ["cloud:plugin"])
  let properties := (section? cloud "properties").getD cloud
  let some plugin := Plugin.ofName? name | throw (.unknownPlugin name)
  return {
    plugin
    options := (section? properties name).getD []
    registry := ((section? root "registry").or (section? properties "registry")).getD []
    agent := ((section? root "agent").or (section? properties "agent")).getD [] }

namespace Sections

/-- All required parameters that are missing, in the order of the tables. -/
def missing (s : Sections) : List String :=
  RequiredParameter.missing s.plugin.name s.options s.plugin.required
    ++ RequiredParameter.missing "registry" s.registry RequiredParameter.registry

/-- Reads the options. -/
def read (s : Sections) : Except ConfigError Config := do
  if !s.missing.isEmpty then throw (.missingParameters s.missing)
  let cloud ← (s.plugin.readOptions (.object s.options)).mapError .json
  let registry ← (RegistryOptions.decoder.fromJson (.object s.registry)).mapError .json
  return ⟨cloud, registry, Dict.ofList s.agent⟩

end Sections

/-- Reads an options document. -/
def ofJson (value : Json) : Except ConfigError Config := do (← sections value).read

/-- What the lifecycle needs of the options. -/
def lifecycleOptions (config : Config) : LifecycleOptions :=
  let common := config.cloud.common
  let timeout := Duration.ofSeconds common.timeoutSeconds
  { availabilityZone := match config.cloud with
      | .qingcloud _ => none
      | .hwcloud options => options.availabilityZone
    defaultKeyName := common.defaultKeyName
    defaultSecurityGroups := common.defaultSecurityGroups
    waiter := ⟨Duration.ofSeconds common.pollSeconds, timeout, timeout.millis + 1000⟩
    diskPolicy := match config.cloud with
      | .qingcloud _ => .qingcloud
      | .hwcloud _ => .hwcloud
    retry := .standard
    ephemeralDisk := true
    agentProperties := config.agent }

/-- The cloud of a configuration. -/
def cloudOf (config : Config) : Except CpiError Cloud :=
  match config.cloud with
  | .qingcloud options => .ok (.qingcloud options.cloud)
  | .hwcloud options =>
    match options.cloud with
    | .ok cloud => .ok (.hwcloud cloud)
    | .error e => .error (.cloudError ("HwCloud client: " ++ e.message))

/-- The cloud and the registry of a configuration. -/
def connection (config : Config) : Except CpiError Connection := do
  let cloud ← config.cloudOf
  return ⟨cloud, Registry.ofEndpoint config.registry.endpoint config.registry.user
    config.registry.password⟩

/-- The manager of a configuration over its connection. -/
def manager (config : Config) (connection : Connection) : Manager where
  backend := connection.cloud.description
  registryEndpoint := connection.registry.endpoint
  options := config.lifecycleOptions
  knowsSelf := true

end Config

end CloudLifecycle

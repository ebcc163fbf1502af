import CloudLifecycle.HwCloud.Backend
import CloudLifecycle.Lifecycle.Online
import CloudLifecycle.QingCloud.Backend

/-!
# Options

The typed options of a cloud and of the registry, and how they are read.  Options that all clouds
share stand beside those of one cloud; some of the latter have other spellings.
-/

set_option autoImplicit false

namespace CloudLifecycle

/-- Options that all clouds share. -/
structure CommonOptions where
  defaultKeyName : Option String
  defaultSecurityGroups : List String
  /-- Seconds between two polls of a state. -/
  pollSeconds : Nat
  /-- Seconds after which a wait for a state ends. -/
  timeoutSeconds : Nat
deriving DecidableEq, Repr

/-- Options of QingCloud. -/
structure QingCloudOptions where
  region : String
  accessKeyId : String
  secretAccessKey : String
  endpoint : Option String
  /-- Instance types by zone, in place of those that are known. -/
  instanceTypes : Option (Dict (List String))
  common : CommonOptions
deriving DecidableEq

/-- Options of HwCloud. -/
structure HwCloudOptions where
  settings : HwCloudSettings
  availabilityZone : Option String
  /-- Instance types in place of those that are known. -/
  instanceTypes : Option (List String)
  common : CommonOptions
deriving DecidableEq

/-- Options of the cloud that is used. -/
inductive CloudOptions where
  | qingcloud (options : QingCloudOptions)
  | hwcloud (options : HwCloudOptions)
deriving DecidableEq

/-- Options of the registry. -/
structure RegistryOptions where
  endpoint : String
  user : String
  password : String
deriving DecidableEq, Repr

namespace CommonOptions

def fields : Fields CommonOptions :=
  CommonOptions.mk <$> Fields.maybe "default_key_name" Decoder.text
    <*> Fields.withDefault "default_security_groups" (Decoder.list Decoder.text) []
    <*> Fields.withDefault "wait_resource_poll_interval" Decoder.word64 5
    <*> Fields.withDefault "state_timeout" Decoder.word64 300

/-- The fields as they are written beside those of a cloud. -/
def toFields (options : CommonOptions) : List (String × Json) :=
  [("default_key_name", Json.ofOption .text options.defaultKeyName),
    ("default_security_groups", Json.texts options.defaultSecurityGroups),
    ("wait_resource_poll_interval", .whole options.pollSeconds),
    ("state_timeout", .whole options.timeoutSeconds)]

end CommonOptions

namespace QingCloudOptions

def decoder : Decoder QingCloudOptions := Decoder.openRecord "QingCloudOptions"
  (QingCloudOptions.mk <$> Fields.required "region" Decoder.text ["zone"]
    <*> Fields.required "access_key_id" Decoder.text
    <*> Fields.required "secret_access_key" Decoder.text
    <*> Fields.maybe "endpoint" Decoder.text
    <*> Fields.maybe "instance_types" (Decoder.dict (Decoder.list Decoder.text)))
  (Decoder.ofOthers CommonOptions.fields)

def toJson (options : QingCloudOptions) : Json := .object <|
  [("region", .text options.region), ("access_key_id", .text options.accessKeyId),
    ("secret_access_key", .text options.secretAccessKey),
    ("endpoint", Json.ofOption .text options.endpoint),
    ("instance_types", Json.ofOption (fun types => Json.ofDict (types.mapValues Json.texts))
      options.instanceTypes)] ++ options.common.toFields

/-- The cloud that the options describe. -/
def cloud (options : QingCloudOptions) : QingCloud where
  account := ⟨options.endpoint.getD QingCloudAccount.publicEndpoint, options.region,
    options.accessKeyId, options.secretAccessKey⟩
  instanceTypes := options.instanceTypes.getD QingCloud.defaultInstanceTypes

end QingCloudOptions

namespace HwCloudOptions

/-- The fields that say where HwCloud is and how requests are signed. -/
def settingsFields : Fields HwCloudSettings :=
  HwCloudSettings.mk <$> Fields.required "url" Decoder.text
    <*> Fields.required "access_key_id" Decoder.text ["HWSAccessKeyId"]
    <*> Fields.required "secret_key" Decoder.text ["key", "Key"]
    <*> Fields.required "region_name" Decoder.text ["RegionName"]
    <*> Fields.withDefault "version" Decoder.text HwCloudSettings.defaultVersion ["Version"]
    <*> Fields.withDefault "signature_method" Decoder.text
      HwCloudSettings.defaultSignatureMethod ["SignatureMethod"]
    <*> Fields.withDefault "signature_version" Decoder.text
      HwCloudSettings.defaultSignatureVersion ["SignatureVersion"]

def decoder : Decoder HwCloudOptions := Decoder.openRecord "HwCloudOptions"
  (HwCloudOptions.mk <$> settingsFields
    <*> Fields.maybe "availability_zone" Decoder.text
    <*> Fields.maybe "instance_types" (Decoder.list Decoder.text))
  (Decoder.ofOthers CommonOptions.fields)

def toJson (options : HwCloudOptions) : Json := .object <|
  [("url", .text options.settings.url), ("access_key_id", .text options.settings.accessKeyId),
    ("secret_key", .text options.settings.secretKey),
    ("region_name", .text options.settings.regionName),
    ("version", .text options.settings.version),
    ("signature_method", .text options.settings.signatureMethod),
    ("signature_version", .text options.settings.signatureVersion),
    ("availability_zone", Json.ofOption .text options.availabilityZone),
    ("instance_types", Json.ofOption Json.texts options.instanceTypes)] ++ options.common.toFields

/-- The cloud that the options describe, if its endpoint is a URL with a host. -/
def cloud (options : HwCloudOptions) : Except HwCloudError HwCloud :=
  (HwCloudAccount.ofSettings options.settings).map fun account =>
    ⟨account, options.availabilityZone,
      options.instanceTypes.getD HwCloud.defaultInstanceTypes⟩

end HwCloudOptions

namespace CloudOptions

/-- The name of the cloud. -/
def plugin : CloudOptions → String
  | .qingcloud _ => "qingcloud"
  | .hwcloud _ => "hwcloud"

def common : CloudOptions → CommonOptions
  | .qingcloud options => options.common
  | .hwcloud options => options.common

def toJson : CloudOptions → Json
  | .qingcloud options => options.toJson
  | .hwcloud options => options.toJson

end CloudOptions

namespace RegistryOptions

def decoder : Decoder RegistryOptions := Decoder.record "RegistryOptions"
  (RegistryOptions.mk <$> Fields.required "endpoint" Decoder.text
    <*> Fields.required "user" Decoder.text <*> Fields.required "password" Decoder.text)

def toJson (options : RegistryOptions) : Json := .object [
  ("endpoint", .text options.endpoint), ("user", .text options.user),
  ("password", .text options.password)]

end RegistryOptions

end CloudLifecycle

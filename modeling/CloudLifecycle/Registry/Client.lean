import CloudLifecycle.Lifecycle.Action
import CloudLifecycle.Registry.Error

/-!
# The registry as a settings store

The registry keeps the settings of one VM's agent under the name of the VM.  Reading gives them as a
text inside an answer; settings that are absent cannot be read, but they can be removed.
-/

set_option autoImplicit false

namespace CloudLifecycle

/-- Where the registry is and who asks. -/
structure Registry where
  endpoint : String
  user : String
  password : String
deriving DecidableEq, Repr

namespace Registry

/-- The registry at an endpoint, whose slashes at the end do not count. -/
def ofEndpoint (endpoint user password : String) : Registry :=
  ⟨String.ofList (endpoint.toList.reverse.dropWhile (· = '/')).reverse, user, password⟩

/-- Where the settings of a VM are. -/
def settingsUrl (registry : Registry) (key : String) : String :=
  registry.endpoint ++ "/instances/" ++ key ++ "/settings"

/-- Sends a request about the settings of a VM. -/
def send (registry : Registry) (method : HttpMethod) (key : String) (body : String) :
    Web (Except RegistryError HttpResponse) := do
  return (← Http.send method (registry.settingsUrl key)
    (some (Http.basic registry.user registry.password)) body).mapError .request

/-- The text of the settings in an answer. -/
def answer : Decoder (Option String) :=
  Decoder.record "SettingsResponse" (Fields.maybe "settings" Decoder.text)

/-- Reads the settings in an answer. -/
def decodeSettings (body : String) : Except RegistryError AgentSettings := do
  match ← (answer.fromText body).mapError .undecodable with
  | none => throw (.invalid "response has no `settings' field")
  | some text => (AgentSettings.decoder.fromText text).mapError fun e => .invalid e.message

/-- The error of a response that is no success. -/
def failure (response : HttpResponse) : RegistryError := .status response.status response.text

/-- Reads the response to a request for settings. -/
def readResponse (key : String) (response : HttpResponse) : Except RegistryError AgentSettings :=
  if response.status = 404 then .error (.notFound key)
  else if response.isSuccess then decodeSettings response.text
  else .error (failure response)

/-- Reads the response to a change; removing what is absent succeeds. -/
def changeResponse (absentIsFine : Bool) (response : HttpResponse) : Except RegistryError Unit :=
  if (absentIsFine && response.status = 404) || response.isSuccess then .ok ()
  else .error (failure response)

/-- The settings of a VM. -/
def read (registry : Registry) (key : String) : Web (Except RegistryError AgentSettings) := do
  return (← registry.send .get key "").bind (readResponse key)

/-- Replaces the settings of a VM. -/
def update (registry : Registry) (key : String) (settings : AgentSettings) :
    Web (Except RegistryError Unit) := do
  return (← registry.send .put key settings.render).bind (changeResponse false)

/-- Removes the settings of a VM. -/
def delete (registry : Registry) (key : String) : Web (Except RegistryError Unit) := do
  return (← registry.send .delete key "").bind (changeResponse true)

/-- Does an operation on the settings store. -/
def perform (registry : Registry) : (call : SettingsCall) → Web (Except SettingsError call.Reply)
  | .read key => do return (← registry.read key).mapError RegistryError.toSettingsError
  | .update key settings => do
    return (← registry.update key settings).mapError RegistryError.toSettingsError
  | .delete key => do return (← registry.delete key).mapError RegistryError.toSettingsError

end Registry

end CloudLifecycle

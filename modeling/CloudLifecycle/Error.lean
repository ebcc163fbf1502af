import CloudLifecycle.Json.DecodeError
import CloudLifecycle.Resource.State
import CloudLifecycle.Time.Duration

/-!
# Errors of the backend, the settings store and the lifecycle

Three layers of causes: what a backend call can fail with, what the settings store can fail with,
and what a lifecycle verb reports to the director.  Each has one `message`; `CpiError.okToRetry`
says whether the same request may be tried again and `CpiError.isNotFound` whether a resource was
absent.
-/

set_option autoImplicit false

namespace CloudLifecycle

/-- Why a call to the backend failed. -/
inductive ProviderError where
  | unauthorized (text : String)
  /-- Too many requests; the backend may say when to come back. -/
  | rateLimited (text : String) (retryAfter : Option Duration)
  | notFound (text : String)
  /-- The resource is in a state that does not allow the operation yet. -/
  | conflict (text : String)
  | badRequest (text : String)
  | serverError (text : String)
  /-- The request could not be sent or was not answered. -/
  | transport (text : String)
  /-- The answer was not understood. -/
  | decode (text : String)
deriving DecidableEq, Repr

namespace ProviderError

def message : ProviderError → String
  | .unauthorized t => "Unauthorized: " ++ t
  | .rateLimited t _ => "Rate limited: " ++ t
  | .notFound t => "Not found: " ++ t
  | .conflict t => "Incorrect resource state: " ++ t
  | .badRequest t => "Bad request: " ++ t
  | .serverError t => "Server error: " ++ t
  | .transport t => "Transport error: " ++ t
  | .decode t => "Unexpected response: " ++ t

/-- The same call may succeed later. -/
def isTransient : ProviderError → Bool
  | .rateLimited _ _ | .serverError _ | .transport _ | .conflict _ => true
  | _ => false

/-- The error of an answer that did not decode. -/
def ofDecodeError (e : DecodeError) : ProviderError := .decode e.message

end ProviderError

/-- The outcome of a call to the backend. -/
abbrev ProviderResult (α : Type) : Type := Except ProviderError α

/-- Why an operation on the settings store failed. -/
inductive SettingsError where
  | notFound (key : String)
  | request (text : String)
  | invalid (text : String)
deriving DecidableEq, Repr

namespace SettingsError

def message : SettingsError → String
  | .notFound key => "No settings stored for `" ++ key ++ "`"
  | .request t => "Registry request failed: " ++ t
  | .invalid t => "Invalid settings document: " ++ t

end SettingsError

/-- Why a lifecycle verb failed. -/
inductive CpiError where
  | invalidArgument (text : String)
  | invalidSpec (text : String)
  | notFound (kind : ResourceKind) (id : String)
  /-- The disk is not attached to the VM, and perhaps to another one. -/
  | notAttached (disk vm : ResourceId) (attachedTo : Option ResourceId)
  | cloudError (text : String)
  /-- None of the target states came before the deadline. -/
  | timeout (kind : ResourceKind) (id : String) (targets : List String)
  /-- A state was reported after which no target can come. -/
  | terminalState (kind : ResourceKind) (id observed : String) (expected : List String)
  | cancelled
  | notSupported (text : String)
  /-- A VM was created and given up again. -/
  | creationFailed (vm : ResourceId) (reason : String)
  | provider (cause : ProviderError)
  | settings (cause : SettingsError)
deriving DecidableEq, Repr

namespace CpiError

def message : CpiError → String
  | .invalidArgument t => "Invalid argument: " ++ t
  | .invalidSpec t => "Invalid network spec: " ++ t
  | .notFound kind id => kind.text ++ " `" ++ id ++ "' not found"
  | .notAttached disk vm (some other) =>
    "Disk `" ++ disk.text ++ "' is attached to `" ++ other.text ++ "', not to `" ++ vm.text ++ "'"
  | .notAttached disk vm none =>
    "Disk `" ++ disk.text ++ "' is not attached to any instance (requested `" ++ vm.text ++ "')"
  | .cloudError t => t
  | .timeout kind id targets =>
    "Timed out waiting for " ++ kind.text ++ " `" ++ id ++ "' to be " ++ ", ".intercalate targets
  | .terminalState kind id observed expected =>
    kind.text ++ " `" ++ id ++ "' state is " ++ observed ++ ", expected "
      ++ ", ".intercalate expected
  | .cancelled => "Task cancelled"
  | .notSupported t => t
  | .creationFailed vm reason =>
    "VM `" ++ vm.text ++ "' creation failed, cleanup attempted: " ++ reason
  | .provider cause => "Provider error: " ++ cause.message
  | .settings cause => "Settings error: " ++ cause.message

/-- A resource that the request names is absent. -/
def isNotFound : CpiError → Bool
  | .notFound _ _ | .notAttached _ _ _ | .provider (.notFound _) => true
  | _ => false

/-- The director may send the same request again. -/
def okToRetry : CpiError → Bool
  | .creationFailed _ _ | .cloudError _ => true
  | .provider cause => cause.isTransient
  | _ => false

/-- The class that the director knows the error by. -/
def directorClass : CpiError → String
  | .creationFailed _ _ => "Bosh::Clouds::VMCreationFailed"
  | .notSupported _ => "Bosh::Clouds::NotSupported"
  | .notAttached _ _ _ => "Bosh::Clouds::DiskNotAttached"
  | _ => "Bosh::Clouds::CloudError"

end CpiError

end CloudLifecycle

import CloudLifecycle.Error
import CloudLifecycle.Http.Client

/-!
# Errors of the registry

What a request to the registry can fail with, and which error of a settings store each failure is.
-/

set_option autoImplicit false

namespace CloudLifecycle

/-- Why a request to the registry failed. -/
inductive RegistryError where
  | notFound (key : String)
  | status (status : Nat) (body : String)
  | request (cause : HttpError)
  /-- The response holds no settings. -/
  | invalid (text : String)
  | undecodable (cause : DecodeError)
deriving DecidableEq

namespace RegistryError

def message : RegistryError → String
  | .notFound key => "No settings for instance `" ++ key ++ "'"
  | .status code body => "Registry returned HTTP " ++ code.repr ++ ": " ++ body
  | .request cause => "Registry request failed: " ++ cause.message
  | .invalid text => "Invalid registry response: " ++ text
  | .undecodable cause => "JSON parse error: " ++ cause.message

/-- The error as one of a settings store. -/
def toSettingsError : RegistryError → SettingsError
  | .notFound key => .notFound key
  | .invalid text => .invalid text
  | .undecodable cause => .invalid cause.message
  | .status code body => .request (status code body).message
  | .request cause => .request (request cause).message

end RegistryError

end CloudLifecycle

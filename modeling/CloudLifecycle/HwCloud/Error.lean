import CloudLifecycle.Error
import CloudLifecycle.Http.Client
import CloudLifecycle.Text.Search

/-!
# Errors of HwCloud

What a call to HwCloud can fail with, and which error of a backend each failure is: the code in the
answer decides, whatever the status of the response is, and the status where there is no code.
-/

set_option autoImplicit false

namespace CloudLifecycle

/-- Why a call to HwCloud failed. -/
inductive HwCloudError where
  | missingVariable (name : String)
  | invalidUrl (text : String)
  /-- The answer carries a code. -/
  | api (code text : String)
  | http (status : Nat) (retryAfter : Option Duration) (body : String)
  /-- Fixed addresses are requested with the VM and not at a router. -/
  | noRouterBindings
  | request (cause : HttpError)
  | undecodable (cause : DecodeError)
  | signing (text : String)
deriving DecidableEq

namespace HwCloudError

def message : HwCloudError → String
  | .missingVariable name => "Missing environment variable: " ++ name
  | .invalidUrl text => "Invalid endpoint URL: " ++ text
  | .api code text => "HwCloud API error " ++ code ++ ": " ++ text
  | .http status _ body => "HTTP " ++ status.repr ++ ": " ++ body
  | .noRouterBindings => "Router static bindings are not available on HwCloud"
  | .request cause => "Request failed: " ++ cause.message
  | .undecodable cause => "JSON parse error: " ++ cause.message
  | .signing text => "Signing failed: " ++ text

/-- Codes of a request that could not be authenticated. -/
def authenticationCodes : List String :=
  ["AuthFailure", "SignatureDoesNotMatch", "RequestExpired", "InvalidAccessKeyId"]

/-- Codes of an operation that the state of a resource does not allow. -/
def stateCodes : List String :=
  ["IncorrectState", "IncorrectInstanceState", "VolumeInUse", "InvalidIPAddress.InUse"]

/-- Codes of too many requests. -/
def limitCodes : List String := ["RequestLimitExceeded", "Throttling"]

/-- Codes of a failure of the cloud. -/
def failureCodes : List String := ["InternalError", "Unavailable", "ServiceUnavailable"]

/-- The error of a backend that a code means. -/
def ofCode (code text : String) : ProviderError :=
  if authenticationCodes.contains code then .unauthorized text
  else if Text.endsWith code ".NotFound" then .notFound text
  else if stateCodes.contains code then .conflict text
  else if limitCodes.contains code then .rateLimited text none
  else if failureCodes.contains code then .serverError text
  else .badRequest (code ++ ": " ++ text)

/-- The error of a backend that a status means. -/
def ofStatus (status : Nat) (retryAfter : Option Duration) (body : String) : ProviderError :=
  if status = 401 || status = 403 then .unauthorized body
  else if status = 404 then .notFound body
  else if status = 429 || status = 503 then .rateLimited body retryAfter
  else if 500 ≤ status && status ≤ 599 then .serverError ("HTTP " ++ status.repr ++ ": " ++ body)
  else .badRequest ("HTTP " ++ status.repr ++ ": " ++ body)

/-- The error as one of a backend. -/
def toProviderError : HwCloudError → ProviderError
  | .api code text => ofCode code text
  | .http status retryAfter body => ofStatus status retryAfter body
  | .request cause => .transport cause.message
  | .undecodable cause => .ofDecodeError cause
  | .signing text => .badRequest text
  | .missingVariable name => .badRequest (missingVariable name).message
  | .invalidUrl text => .badRequest (invalidUrl text).message
  | .noRouterBindings => .badRequest noRouterBindings.message

end HwCloudError

end CloudLifecycle

import CloudLifecycle.Error
import CloudLifecycle.Http.Client
import CloudLifecycle.Text.Search

/-!
# Errors of QingCloud

What a call to QingCloud can fail with, and which error of a backend each failure is: the code in
the answer decides, or the status of the response where there is no answer to read.
-/

set_option autoImplicit false

namespace CloudLifecycle

/-- Why a call to QingCloud failed. -/
inductive QingCloudError where
  | missingVariable (name : String)
  /-- The answer carries a code. -/
  | api (code : Int) (text : String)
  | http (status : Nat) (retryAfter : Option Duration) (body : String)
  | request (cause : HttpError)
  | undecodable (cause : DecodeError)
  | signing (text : String)
deriving DecidableEq

namespace QingCloudError

def message : QingCloudError → String
  | .missingVariable name => "Missing environment variable: " ++ name
  | .api code text => "QingCloud API error " ++ code.repr ++ ": " ++ text
  | .http status _ body => "HTTP " ++ status.repr ++ ": " ++ body
  | .request cause => "Request failed: " ++ cause.message
  | .undecodable cause => "JSON parse error: " ++ cause.message
  | .signing text => "Signing failed: " ++ text

/-- The error of a backend that a code means.  An operation that the status of a resource does not
allow is refused like one without permission, and told apart by its text. -/
def ofCode (code : Int) (text : String) : ProviderError :=
  if code = 1200 || code = 1300 then .unauthorized text
  else if code = 2100 then .notFound text
  else if code = 1400 && Text.contains text "status" then .conflict text
  else if code = 5100 then .rateLimited text none
  else if code = 5000 || code = 5200 || code = 5300 then .serverError text
  else .badRequest (code.repr ++ ": " ++ text)

/-- The error of a backend that a status means. -/
def ofStatus (status : Nat) (retryAfter : Option Duration) (body : String) : ProviderError :=
  if status = 401 || status = 403 then .unauthorized body
  else if status = 404 then .notFound body
  else if status = 429 then .rateLimited body retryAfter
  else if 500 ≤ status && status ≤ 599 then .serverError ("HTTP " ++ status.repr ++ ": " ++ body)
  else .badRequest ("HTTP " ++ status.repr ++ ": " ++ body)

/-- The error as one of a backend. -/
def toProviderError : QingCloudError → ProviderError
  | .api code text => ofCode code text
  | .http status retryAfter body => ofStatus status retryAfter body
  | .request cause => .transport cause.message
  | .undecodable cause => .ofDecodeError cause
  | .signing text => .badRequest text
  | .missingVariable name => .badRequest ("missing environment variable " ++ name)

end QingCloudError

end CloudLifecycle

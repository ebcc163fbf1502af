import CloudLifecycle.Error
import CloudLifecycle.Http.Client

/-!
# The metadata service

A machine in the cloud can ask a service on its own link for the id of the VM that it is.
-/

set_option autoImplicit false

namespace CloudLifecycle.Metadata

/-- Where the service tells the id. -/
def url : String := "http://169.254.169.254/latest/meta-data/instance-id/"

/-- Reads the response of the service. -/
def readResponse (response : HttpResponse) : ProviderResult String :=
  if response.isSuccess then .ok response.text
  else .error (.serverError ("metadata service returned " ++ Http.statusText response.status))

/-- Asks the service for the id. -/
def lookUp : Web (ProviderResult String) := do
  match ← Http.send .get url with
  | .error cause => return .error (.transport cause.message)
  | .ok response => return readResponse response

end CloudLifecycle.Metadata

import CloudLifecycle.Digest.Hmac
import CloudLifecycle.HwCloud.Error
import CloudLifecycle.Json.Fields
import CloudLifecycle.Url.Query

/-!
# Signed requests to HwCloud

A request to HwCloud names an action in its query.  The signature covers the method, the host, the
path and the canonical query, and every request carries a name of its own.  An answer with a code
is a failure.
-/

set_option autoImplicit false

namespace CloudLifecycle

/-- Where HwCloud is and how requests are signed. -/
structure HwCloudSettings where
  url : String
  accessKeyId : String
  secretKey : String
  regionName : String
  version : String
  signatureMethod : String
  signatureVersion : String
deriving DecidableEq, Repr

/-- An account at HwCloud whose endpoint has a host. -/
structure HwCloudAccount where
  settings : HwCloudSettings
  endpoint : Url
deriving DecidableEq, Repr

namespace HwCloudSettings

def defaultVersion : String := "2"

def defaultSignatureMethod : String := "HmacSHA256"

def defaultSignatureVersion : String := "2"

/-- The settings that environment variables describe. -/
def ofEnvironment (environment : String → Option String) :
    Except HwCloudError HwCloudSettings := do
  let needed (name : String) : Except HwCloudError String :=
    match environment name with
    | some value => .ok value
    | none => .error (.missingVariable name)
  let url ← needed "HWCLOUD_URL"
  let accessKeyId ← needed "HWCLOUD_ACCESS_KEY_ID"
  let secretKey ← needed "HWCLOUD_SECRET_KEY"
  let regionName ← needed "HWCLOUD_REGION_NAME"
  return ⟨url, accessKeyId, secretKey, regionName,
    (environment "HWCLOUD_VERSION").getD defaultVersion, defaultSignatureMethod,
    defaultSignatureVersion⟩

end HwCloudSettings

namespace HwCloudAccount

/-- The account of some settings. -/
def ofSettings (settings : HwCloudSettings) : Except HwCloudError HwCloudAccount :=
  match Url.parse settings.url with
  | .error e => .error (.invalidUrl (settings.url ++ ": " ++ e.message))
  | .ok endpoint =>
    if endpoint.hostText?.isSome then .ok ⟨settings, endpoint⟩
    else .error (.invalidUrl settings.url)

/-- The parameters of an action with those that every request has. -/
def complete (account : HwCloudAccount) (action : String) (q : Query) (now : Timestamp)
    (nonce : String) : Query :=
  q.set "Action" action
    |>.set "HWSAccessKeyId" account.settings.accessKeyId
    |>.set "RegionName" account.settings.regionName
    |>.set "Version" account.settings.version
    |>.set "SignatureMethod" account.settings.signatureMethod
    |>.set "SignatureVersion" account.settings.signatureVersion
    |>.set "SignatureNonce" nonce
    |>.set "Timestamp" now.text

/-- The text that is signed. -/
def signedText (account : HwCloudAccount) (canonical : String) : String :=
  "GET\n" ++ account.endpoint.hostAndPort.getD "" ++ "\n" ++ account.endpoint.path ++ "\n"
    ++ canonical

/-- The URL of a request for an action. -/
def signedUrl (account : HwCloudAccount) (action : String) (q : Query) (now : Timestamp)
    (nonce : String) : String :=
  let canonical := (account.complete action q now nonce).canonical
  let signature := Hmac.signature account.settings.secretKey (account.signedText canonical)
  (account.endpoint.withQuery (canonical ++ "&Signature=" ++ Text.percentEncode signature)).text

/-- The code and the message of an answer. -/
def errorBody : Decoder (Option String × Option String) := Decoder.record "ErrorBody"
  (Prod.mk <$> Fields.maybe "code" Decoder.text <*> Fields.maybe "message" Decoder.text)

/-- The failure that an answer reports, if it reports one. -/
def apiError (body : String) : Option HwCloudError :=
  match errorBody.fromText body with
  | .ok (some code, text) => if code.isEmpty then none else some (.api code (text.getD ""))
  | _ => none

/-- Reads a response. -/
def readResponse {α : Type} (d : Decoder α) (response : HttpResponse) : Except HwCloudError α :=
  match apiError response.text with
  | some e => .error e
  | none =>
    if response.isSuccess then (d.fromText response.text).mapError .undecodable
    else .error (.http response.status
      ((response.retryAfter.bind Http.seconds?).map Duration.ofSeconds) response.text)

/-- Does an action. -/
def call {α : Type} (account : HwCloudAccount) (action : String) (q : Query) (d : Decoder α) :
    Web (Except HwCloudError α) := do
  let now ← Program.request WebAction.now
  let nonce ← Program.request WebAction.freshName
  match ← Http.send .get (account.signedUrl action q now nonce) with
  | .error cause => return .error (.request cause)
  | .ok response => return readResponse d response

end HwCloudAccount

end CloudLifecycle

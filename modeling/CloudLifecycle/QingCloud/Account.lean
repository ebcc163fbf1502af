import CloudLifecycle.Digest.Hmac
import CloudLifecycle.Json.Fields
import CloudLifecycle.QingCloud.Error
import CloudLifecycle.Url.Query

/-!
# Signed requests to QingCloud

A request to QingCloud names an action in its query.  The signature covers the method, the path of
the endpoint and the canonical query; the answer carries a code that is zero when the action
succeeded.
-/

set_option autoImplicit false

namespace CloudLifecycle

/-- An account at QingCloud, with the zone that it works in. -/
structure QingCloudAccount where
  endpoint : String
  zone : String
  accessKeyId : String
  secretAccessKey : String
deriving DecidableEq, Repr

namespace QingCloudAccount

/-- The endpoint of the public cloud. -/
def publicEndpoint : String := "https://api.qingcloud.com/iaas/"

/-- The account that environment variables describe. -/
def ofEnvironment (environment : String → Option String) :
    Except QingCloudError QingCloudAccount := do
  let needed (name : String) : Except QingCloudError String :=
    match environment name with
    | some value => .ok value
    | none => .error (.missingVariable name)
  let accessKeyId ← needed "QY_ACCESS_KEY_ID"
  let secretAccessKey ← needed "QY_SECRET_ACCESS_KEY"
  let zone ← needed "QY_ZONE"
  return ⟨(environment "QY_ENDPOINT").getD publicEndpoint, zone, accessKeyId, secretAccessKey⟩

/-- The path of the endpoint, which is signed: from the first slash after the scheme on. -/
def path (account : QingCloudAccount) : String :=
  let cs := account.endpoint.toList
  let afterScheme := match Text.splitFirst "://".toList cs with
    | some (_, rest) => rest
    | none => cs
  match afterScheme.dropWhile (· ≠ '/') with
  | [] => "/"
  | rest => String.ofList rest

/-- The parameters of an action with those that every request has. -/
def complete (account : QingCloudAccount) (action : String) (q : Query) (now : Timestamp) : Query :=
  q.set "action" action
    |>.set "zone" account.zone
    |>.set "access_key_id" account.accessKeyId
    |>.set "signature_method" "HmacSHA256"
    |>.set "signature_version" "1"
    |>.set "version" "1"
    |>.set "time_stamp" now.text

/-- The text that is signed. -/
def signedText (account : QingCloudAccount) (canonical : String) : String :=
  "GET\n" ++ account.path ++ "\n" ++ canonical

/-- The URL of a request for an action. -/
def signedUrl (account : QingCloudAccount) (action : String) (q : Query) (now : Timestamp) :
    String :=
  let canonical := (account.complete action q now).canonical
  account.endpoint ++ "?" ++ canonical ++ "&signature="
    ++ Text.percentEncode (Hmac.signature account.secretAccessKey (account.signedText canonical))

/-- The code of an answer and its message. -/
def envelope : Decoder (Int × Option String) := Decoder.record "Envelope"
  (Prod.mk <$> Fields.required "ret_code" Decoder.integer64 <*> Fields.maybe "message" Decoder.text)

/-- Reads an answer: its code first, then what it says. -/
def readAnswer {α : Type} (d : Decoder α) (body : String) : Except QingCloudError α := do
  let value ← (Json.parse body).mapError .undecodable
  let (code, text) ← (envelope.fromJson value).mapError .undecodable
  if code ≠ 0 then throw (.api code (text.getD ""))
  (d.fromJson value).mapError .undecodable

/-- Reads a response. -/
def readResponse {α : Type} (d : Decoder α) (response : HttpResponse) : Except QingCloudError α :=
  if response.isSuccess then readAnswer d response.text
  else .error (.http response.status
    ((response.retryAfter.bind Http.seconds?).map Duration.ofSeconds) response.text)

/-- Does an action. -/
def call {α : Type} (account : QingCloudAccount) (action : String) (q : Query) (d : Decoder α) :
    Web (Except QingCloudError α) := do
  let now ← Program.request WebAction.now
  match ← Http.send .get (account.signedUrl action q now) with
  | .error cause => return .error (.request cause)
  | .ok response => return readResponse d response

end QingCloudAccount

end CloudLifecycle

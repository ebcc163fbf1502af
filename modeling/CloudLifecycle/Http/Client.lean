import CloudLifecycle.Http.Message
import CloudLifecycle.Program
import CloudLifecycle.Time.Timestamp

/-!
# Sending requests

A `Web` program sends requests, reads the clock and takes fresh names.  `Http.send` prepares a
request for the URL of a text: the URL has to have a host and a scheme of the web, and a user in
it goes into the credentials.
-/

set_option autoImplicit false

namespace CloudLifecycle

/-- What a client of a web service asks of its surroundings. -/
inductive WebAction where
  | send (request : HttpRequest)
  | now
  /-- A name that was never given before. -/
  | freshName
deriving DecidableEq

/-- The answer to an action; a request may stay without a response. -/
abbrev WebAction.Answer : WebAction → Type
  | .send _ => Option HttpResponse
  | .now => Timestamp
  | .freshName => String

/-- A program over the web. -/
abbrev Web : Type → Type := Program WebAction WebAction.Answer

/-- Why a request has no response. -/
inductive HttpError where
  /-- The text is no URL. -/
  | unreadable
  /-- No request can be made for the URL. -/
  | unusable (url : Url)
  /-- The request was not answered. -/
  | unanswered (url : Url)
deriving DecidableEq, Repr

def HttpError.message : HttpError → String
  | .unreadable => "builder error"
  | .unusable url => "builder error for url (" ++ url.text ++ ")"
  | .unanswered url => "error sending request for url (" ++ url.text ++ ")"

namespace Http

/-- The longest URL of a request, in bytes. -/
def maxLength : Nat := 65534

/-- Characters that a domain may have but the head of a request may not. -/
def isUnsendable (c : Char) : Bool := "\"\x7b\x7d`".toList.contains c

/-- The URL can stand in a request. -/
def isSendable (url : Url) : Bool :=
  ["http", "https"].contains url.scheme
    && !((url.hostText?.getD "").toList.any isUnsendable) && url.text.utf8ByteSize ≤ maxLength

/-- A part of a URL without its escapes, if it is text. -/
def plain? (part : String) : Option String := Text.decode? (Text.percentDecode part.toList)

/-- The user and the password in a URL, as far as they are text. -/
def credentials? (url : Url) : Option (String × Option String) := do
  let user ← plain? url.username
  let password := url.password.bind plain?
  if user.isEmpty && password.isNone then none else some (user, password)

/-- The URL and the credentials of a request; credentials that are found leave the URL. -/
def takeCredentials (url : Url) : Url × Option String :=
  match credentials? url with
  | some (user, password) => (url.withoutUserinfo, some (basic user (password.getD "")))
  | none => (url, none)

/-- Prepares a request for the URL of a text. -/
def prepare (method : HttpMethod) (url : String) (authorization : Option String)
    (body : String) : Except HttpError HttpRequest :=
  match Url.parse url with
  | .error _ => .error .unreadable
  | .ok full =>
    if full.hostText?.isNone then .error (.unusable full)
    else
      let (url, found) := takeCredentials full
      if isSendable url then .ok ⟨method, url, authorization.or found, body⟩
      else .error (.unusable url)

/-- Sends a request and gives the response. -/
def send (method : HttpMethod) (url : String) (authorization : Option String := none)
    (body : String := "") : Web (Except HttpError HttpResponse) :=
  match prepare method url authorization body with
  | .error e => pure (.error e)
  | .ok request => do
    match ← Program.request (WebAction.send request) with
    | some response => return .ok response
    | none => return .error (.unanswered request.url)

end Http

end CloudLifecycle

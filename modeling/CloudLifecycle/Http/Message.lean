import CloudLifecycle.Text.Base64
import CloudLifecycle.Url.Parser

/-!
# HTTP messages

Requests and responses as far as the cloud backends, the registry and the metadata service need
them: a request has an absolute URL, perhaps credentials and a body; a response has a status, a
body of bytes and perhaps a time after which to come back.
-/

set_option autoImplicit false

namespace CloudLifecycle

/-- What a request wants done. -/
inductive HttpMethod where
  | get
  | put
  | delete
deriving DecidableEq, Repr

def HttpMethod.text : HttpMethod → String
  | .get => "GET"
  | .put => "PUT"
  | .delete => "DELETE"

/-- A request. -/
structure HttpRequest where
  method : HttpMethod
  url : Url
  authorization : Option String
  body : String
deriving DecidableEq, Repr

/-- A response. -/
structure HttpResponse where
  status : Nat
  /-- The header that says when to come back. -/
  retryAfter : Option String
  body : List UInt8
deriving DecidableEq, Repr

namespace Http

/-- The name of a status. -/
def reason : Nat → Option String
  | 100 => some "Continue"
  | 101 => some "Switching Protocols"
  | 102 => some "Processing"
  | 103 => some "Early Hints"
  | 200 => some "OK"
  | 201 => some "Created"
  | 202 => some "Accepted"
  | 203 => some "Non Authoritative Information"
  | 204 => some "No Content"
  | 205 => some "Reset Content"
  | 206 => some "Partial Content"
  | 207 => some "Multi-Status"
  | 208 => some "Already Reported"
  | 226 => some "IM Used"
  | 300 => some "Multiple Choices"
  | 301 => some "Moved Permanently"
  | 302 => some "Found"
  | 303 => some "See Other"
  | 304 => some "Not Modified"
  | 305 => some "Use Proxy"
  | 307 => some "Temporary Redirect"
  | 308 => some "Permanent Redirect"
  | 400 => some "Bad Request"
  | 401 => some "Unauthorized"
  | 402 => some "Payment Required"
  | 403 => some "Forbidden"
  | 404 => some "Not Found"
  | 405 => some "Method Not Allowed"
  | 406 => some "Not Acceptable"
  | 407 => some "Proxy Authentication Required"
  | 408 => some "Request Timeout"
  | 409 => some "Conflict"
  | 410 => some "Gone"
  | 411 => some "Length Required"
  | 412 => some "Precondition Failed"
  | 413 => some "Payload Too Large"
  | 414 => some "URI Too Long"
  | 415 => some "Unsupported Media Type"
  | 416 => some "Range Not Satisfiable"
  | 417 => some "Expectation Failed"
  | 418 => some "I'm a teapot"
  | 421 => some "Misdirected Request"
  | 422 => some "Unprocessable Entity"
  | 423 => some "Locked"
  | 424 => some "Failed Dependency"
  | 425 => some "Too Early"
  | 426 => some "Upgrade Required"
  | 428 => some "Precondition Required"
  | 429 => some "Too Many Requests"
  | 431 => some "Request Header Fields Too Large"
  | 451 => some "Unavailable For Legal Reasons"
  | 500 => some "Internal Server Error"
  | 501 => some "Not Implemented"
  | 502 => some "Bad Gateway"
  | 503 => some "Service Unavailable"
  | 504 => some "Gateway Timeout"
  | 505 => some "HTTP Version Not Supported"
  | 506 => some "Variant Also Negotiates"
  | 507 => some "Insufficient Storage"
  | 508 => some "Loop Detected"
  | 510 => some "Not Extended"
  | 511 => some "Network Authentication Required"
  | _ => none

/-- A status with its name. -/
def statusText (status : Nat) : String :=
  status.repr ++ " " ++ (reason status).getD "<unknown status code>"

/-- The request was carried out. -/
def isSuccess (status : Nat) : Bool := 200 ≤ status && status < 300

/-- A count of seconds that fits sixty-four bits, perhaps with a plus sign. -/
def seconds? (text : String) : Option Nat :=
  let digits := match text.toList with
    | '+' :: rest => rest
    | cs => cs
  if digits.isEmpty then none else (Text.digitsValue? 10 digits).filter (· ≤ 0xFFFFFFFFFFFFFFFF)

/-- The header for a user with a password. -/
def basic (user password : String) : String :=
  "Basic " ++ Base64.encode (Text.utf8 (user ++ ":" ++ password))

end Http

namespace HttpResponse

/-- The body as text. -/
def text (response : HttpResponse) : String := Text.decodeLossy response.body

def isSuccess (response : HttpResponse) : Bool := Http.isSuccess response.status

end HttpResponse

end CloudLifecycle

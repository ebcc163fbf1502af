import CloudLifecycle.Http.Message
import CloudLifecycle.Text.Search

/-!
# Requests and responses as bytes

`HttpRequest.bytes` writes a request that closes its connection, and `HttpResponse.ofBytes?` reads
all that came back on it.  The body of a response is cut into chunks, or has a stated length, or
goes on up to the end; some statuses have none.
-/

set_option autoImplicit false

namespace CloudLifecycle

namespace HttpRequest

variable (request : HttpRequest)

/-- What the server is asked for. -/
def target : String :=
  (if request.url.path.isEmpty then "/" else request.url.path)
    ++ request.url.query.elim "" ("?" ++ ·)

/-- A line of the head. -/
def header (name value : String) : String := name ++ ": " ++ value ++ "\r\n"

/-- The lines before the body. -/
def head : String :=
  request.method.text ++ " " ++ request.target ++ " HTTP/1.1\r\n"
    ++ header "host" (request.url.hostAndPort.getD "")
    ++ request.authorization.elim "" (header "authorization")
    ++ header "accept" "*/*"
    ++ (if request.body.isEmpty then ""
        else header "content-type" "application/json"
          ++ header "content-length" request.body.utf8ByteSize.repr)
    ++ header "connection" "close" ++ "\r\n"

def bytes : List UInt8 := Text.utf8 (request.head ++ request.body)

end HttpRequest

namespace HttpResponse

/-- The head of a response: its status and its headers, with names in lower case. -/
structure Head where
  status : Nat
  headers : List (String × String)
deriving DecidableEq, Repr

/-- Splits bytes at the first empty line. -/
def splitHead : List UInt8 → Option (List UInt8 × List UInt8)
  | [] => none
  | 13 :: 10 :: 13 :: 10 :: body => some ([], body)
  | byte :: rest => (splitHead rest).map fun (head, body) => (byte :: head, body)

/-- A text without spaces around it. -/
def trimmed (cs : List Char) : String :=
  String.ofList ((cs.dropWhile (· = ' ')).reverse.dropWhile (· = ' ')).reverse

/-- Reads a line of the head. -/
def header? (line : List Char) : Option (String × String) :=
  match line.dropWhile (· ≠ ':') with
  | _ :: value => some ((String.ofList (line.takeWhile (· ≠ ':'))).toLower, trimmed value)
  | [] => none

/-- The status in the first line. -/
def status? (line : List Char) : Option Nat :=
  match Text.splitOn ' ' line with
  | _ :: code :: _ => if code.length = 3 then Text.digitsValue? 10 code else none
  | _ => none

/-- Reads the head. -/
def head? (bytes : List UInt8) : Option Head :=
  let cs := (Text.decodeLossy bytes).toList.filter (· ≠ '\r')
  match Text.splitOn '\n' cs with
  | [] => none
  | first :: rest => (status? first).map fun status => ⟨status, rest.filterMap header?⟩

/-- The size in the first line of a chunk, and what follows the line. -/
def chunkSize? (bytes : List UInt8) : Option (Nat × List UInt8) :=
  let line := bytes.takeWhile (· ≠ 10)
  let digits := (Text.decodeLossy line).toList.takeWhile fun c => (Text.hexValue? c).isSome
  if digits.isEmpty then none
  else (Text.digitsValue? 16 digits).map fun n => (n, bytes.drop (line.length + 1))

/-- Joins chunks, of which there are no more than bytes. -/
def chunks : Nat → List UInt8 → Option (List UInt8)
  | 0, _ => none
  | fuel + 1, bytes => do
    let (size, rest) ← chunkSize? bytes
    if size = 0 then return []
    if rest.length < size then none
    return rest.take size ++ (← chunks fuel (rest.drop (size + 2)))

/-- The body, as far as the head tells it. -/
def body? (head : Head) (bytes : List UInt8) : Option (List UInt8) :=
  if head.status = 204 || head.status = 304 then some []
  else if (head.headers.lookup "transfer-encoding").any (·.toLower = "chunked") then
    chunks (bytes.length + 1) bytes
  else match (head.headers.lookup "content-length").bind (·.toNat?) with
    | none => some bytes
    | some length => if bytes.length < length then none else some (bytes.take length)

/-- Reads all that came back on a connection. -/
def ofBytes? (bytes : List UInt8) : Option HttpResponse := do
  let (headBytes, rest) ← splitHead bytes
  let head ← head? headBytes
  return ⟨head.status, head.headers.lookup "retry-after", ← body? head rest⟩

end HttpResponse

end CloudLifecycle

import CloudLifecycle.Url.Host

/-!
# URLs

A URL is held in its normal form: the scheme and a domain in lower case, no default port, a path
without dot segments, and every part percent-encoded as far as it has to be.  `Url.text` writes it.
-/

set_option autoImplicit false

namespace CloudLifecycle

/-- A URL in its normal form. -/
structure Url where
  scheme : String
  username : String
  password : Option String
  /-- The host; an empty one is written, an absent one is not. -/
  host : Option Host
  /-- The port, unless it is the default of the scheme. -/
  port : Option Nat
  path : String
  query : Option String
  fragment : Option String
deriving DecidableEq, Repr

namespace Url

/-- Schemes whose URLs have a host and slashes only. -/
def isSpecial (scheme : String) : Bool :=
  ["http", "https", "ws", "wss", "ftp", "file"].contains scheme

/-- The port of a scheme that is left out. -/
def defaultPort : String → Option Nat
  | "http" | "ws" => some 80
  | "https" | "wss" => some 443
  | "ftp" => some 21
  | _ => none

/-- The user and password before the host, with their mark. -/
def userinfo (url : Url) : String :=
  if url.username.isEmpty && url.password.isNone then ""
  else url.username ++ (url.password.elim "" (":" ++ ·)) ++ "@"

/-- The text of the host, if there is one. -/
def hostText? (url : Url) : Option String :=
  (url.host.map Host.text).filter fun text => !text.isEmpty

/-- The host with its port. -/
def hostAndPort (url : Url) : Option String :=
  url.host.map fun host => host.text ++ url.port.elim "" fun port => ":" ++ port.repr

/-- What stands between the scheme and the path. -/
def authority (url : Url) : String :=
  match url.hostAndPort with
  | some text => "//" ++ url.userinfo ++ text
  | none => if url.path.startsWith "//" then "/." else ""

def text (url : Url) : String :=
  url.scheme ++ ":" ++ url.authority ++ url.path ++ url.query.elim "" ("?" ++ ·)
    ++ url.fragment.elim "" ("#" ++ ·)

/-- The URL with another query. -/
def withQuery (url : Url) (query : String) : Url := { url with query := some query }

/-- The URL without user and password. -/
def withoutUserinfo (url : Url) : Url := { url with username := "", password := none }

end Url

end CloudLifecycle

import CloudLifecycle.Json.Fields
import CloudLifecycle.Json.Printer
import CloudLifecycle.Text.Base64
import CloudLifecycle.Text.Utf8

/-!
# The bootstrap document

A new VM is handed a small document: where the registry is, the name of the VM, and, where there are
any, the public key to install and the DNS servers to use.  It travels in Base64.
-/

set_option autoImplicit false

namespace CloudLifecycle

/-- The bootstrap document of a VM. -/
structure UserData where
  registryEndpoint : String
  serverName : String
  publicKey : Option String
  nameservers : Option (List String)
deriving DecidableEq, Repr

namespace UserData

def toJson (data : UserData) : Json := .object <|
  [("registry", .object [("endpoint", .text data.registryEndpoint)]),
    ("server", .object [("name", .text data.serverName)])]
    ++ (match data.publicKey with
      | some key => [("openssh", .object [("public_key", .text key)])]
      | none => [])
    ++ (match data.nameservers with
      | some servers => [("dns", .object [("nameserver", Json.texts servers)])]
      | none => [])

/-- The text of the document. -/
def render (data : UserData) : String := data.toJson.render

/-- The document as it travels. -/
def encode (data : UserData) : String := Base64.encode (Text.utf8 data.render)

def decoder : Decoder UserData := Decoder.record "UserData"
  (UserData.mk
    <$> Fields.required "registry"
      (Decoder.record "RegistryEndpoint" (Fields.required "endpoint" Decoder.text))
    <*> Fields.required "server" (Decoder.record "ServerName" (Fields.required "name" Decoder.text))
    <*> Fields.maybe "openssh"
      (Decoder.record "OpenSsh" (Fields.required "public_key" Decoder.text))
    <*> Fields.maybe "dns"
      (Decoder.record "Nameservers" (Fields.required "nameserver" (Decoder.list Decoder.text))))

end UserData

end CloudLifecycle

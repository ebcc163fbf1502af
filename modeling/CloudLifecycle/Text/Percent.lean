import CloudLifecycle.Text.Digits
import CloudLifecycle.Text.Utf8

/-!
# Percent-encoding

A byte is written as itself when a set of characters allows it, and as `%XX` with upper-case
hexadecimal digits otherwise.  Query strings allow the unreserved characters only: letters, digits
and `-`, `_`, `.`, `~`.
-/

set_option autoImplicit false

namespace CloudLifecycle.Text

/-- The escape of a byte. -/
def escapeByte (b : UInt8) : List Char := ['%', hexDigit (b.toNat / 16), hexDigit (b.toNat % 16)]

/-- Bytes with those escaped whose character `keep` refuses; bytes beyond ASCII always are. -/
def percentEncodeBytes (keep : Char → Bool) (bytes : List UInt8) : List Char :=
  bytes.flatMap fun b =>
    if b.toNat < 128 && keep (Char.ofNat b.toNat) then [Char.ofNat b.toNat] else escapeByte b

/-- Characters that mean nothing in a URL and pass through unescaped. -/
def isUnreserved (c : Char) : Bool :=
  c.isAlphanum || c = '-' || c = '_' || c = '.' || c = '~'

/-- The text with everything but unreserved characters escaped. -/
def percentEncode (s : String) : String :=
  String.ofList (percentEncodeBytes isUnreserved (utf8 s))

/-- The bytes an encoded text stands for; a `%` that starts no escape stands for itself. -/
def percentDecode : List Char → List UInt8
  | [] => []
  | '%' :: a :: b :: rest =>
    match hexValue? a, hexValue? b with
    | some x, some y => UInt8.ofNat (x * 16 + y) :: percentDecode rest
    | _, _ => 37 :: percentDecode (a :: b :: rest)
  | c :: rest => String.utf8EncodeChar c ++ percentDecode rest
termination_by cs => cs.length

end CloudLifecycle.Text

import CloudLifecycle.Text.Percent
import CloudLifecycle.Text.Search
import CloudLifecycle.Url.Domain.Ascii

/-!
# Hosts of URLs

A host is a domain or an address.  A domain is written in lower case and in ASCII; a domain whose
last part is a number is an IPv4 address, and brackets enclose an IPv6 address.
-/

set_option autoImplicit false

namespace CloudLifecycle

/-- Why a text is no URL. -/
inductive UrlError where
  | relativeWithoutBase
  | emptyHost
  | invalidPort
  | invalidDomain
  | invalidDomainCharacter
  | invalidIpv4
  | invalidIpv6
deriving DecidableEq, Repr

namespace UrlError

def message : UrlError → String
  | .relativeWithoutBase => "relative URL without a base"
  | .emptyHost => "empty host"
  | .invalidPort => "invalid port number"
  | .invalidDomain => "invalid international domain name"
  | .invalidDomainCharacter => "invalid domain character"
  | .invalidIpv4 => "invalid IPv4 address"
  | .invalidIpv6 => "invalid IPv6 address"

end UrlError

/-- A host. -/
inductive Host where
  | domain (name : String)
  | ipv4 (address : Nat)
  /-- An address of eight pieces of sixteen bits. -/
  | ipv6 (pieces : List Nat)
deriving DecidableEq, Repr

namespace Host

/-! ## IPv4 -/

/-- A part of an IPv4 address: decimal, octal after `0`, or hexadecimal after `0x`. -/
def ipv4Part? : List Char → Option Nat
  | [] => none
  | '0' :: 'x' :: rest => Text.digitsValue? 16 rest
  | '0' :: 'X' :: rest => Text.digitsValue? 16 rest
  | '0' :: c :: rest => Text.digitsValue? 8 (c :: rest)
  | cs => Text.digitsValue? 10 cs

/-- The parts of a domain without an empty last one. -/
def parts (cs : List Char) : List (List Char) :=
  let all := Text.splitOn '.' cs
  if 1 < all.length && all.getLast? = some [] then all.dropLast else all

/-- The last part of a domain is a number. -/
def endsInNumber (cs : List Char) : Bool :=
  match (parts cs).getLast? with
  | some [] => false
  | some last => last.all Char.isDigit || (ipv4Part? last).isSome
  | none => false

/-- Reads an IPv4 address of up to four parts, the last of which fills the bits that are left. -/
def ipv4? (cs : List Char) : Option Nat := do
  let numbers ← (parts cs).mapM ipv4Part?
  let last ← numbers.getLast?
  let leading := numbers.dropLast
  if 4 < numbers.length then none
  else if leading.any (255 < ·) then none
  else if Nat.pow 256 (4 - leading.length) ≤ last then none
  else some ((leading ++ List.replicate (4 - leading.length) 0).foldl (· * 256 + ·) 0 + last)

/-- An IPv4 address with points between its four parts. -/
def ipv4Text (address : Nat) : String :=
  ".".intercalate ([address / 0x1000000, address / 0x10000 % 256, address / 0x100 % 256,
    address % 256].map Nat.repr)

/-! ## IPv6 -/

/-- The hexadecimal digits of a piece, without leading zeros. -/
def hexText (n : Nat) : String := String.ofList (Nat.toDigits 16 n)

/-- Reads a piece of one to four hexadecimal digits. -/
def piece? (cs : List Char) : Option Nat :=
  if cs.isEmpty || 4 < cs.length then none else Text.digitsValue? 16 cs

/-- A decimal number below 256 without leading zeros. -/
def octet? (cs : List Char) : Option Nat :=
  if cs.isEmpty || (1 < cs.length && cs.head? = some '0') then none
  else (Text.digitsValue? 10 cs).filter (· < 256)

/-- The two pieces of an IPv4 address at the end of an IPv6 address. -/
def embedded? (cs : List Char) : Option (List Nat) :=
  match (Text.splitOn '.' cs).mapM octet? with
  | some [a, b, c, d] => some [a * 256 + b, c * 256 + d]
  | _ => none

/-- The pieces of a list with colons; the last item may be an IPv4 address if `atEnd` is set. -/
def piecesOf (atEnd : Bool) : List (List Char) → Option (List Nat)
  | [] => some []
  | [last] => if atEnd && last.contains '.' then embedded? last else (piece? last).map ([·])
  | cs :: rest => do
    let n ← piece? cs
    let more ← piecesOf atEnd rest
    pure (n :: more)

/-- The parts before and after the first double colon. -/
def splitGap : List Char → Option (List Char × List Char)
  | [] => none
  | ':' :: ':' :: rest => some ([], rest)
  | c :: rest => (splitGap rest).map fun (before, after) => (c :: before, after)

/-- The items between colons; none for an empty text. -/
def colonItems (cs : List Char) : List (List Char) := if cs.isEmpty then [] else Text.splitOn ':' cs

/-- Reads an IPv6 address; a double colon stands for at least one piece of zero. -/
def ipv6? (cs : List Char) : Option (List Nat) :=
  match splitGap cs with
  | none => (piecesOf true (colonItems cs)).filter (·.length = 8)
  | some (before, after) => do
    let front ← piecesOf false (colonItems before)
    let back ← piecesOf true (colonItems after)
    if 7 < front.length + back.length then none
    else some (front ++ List.replicate (8 - front.length - back.length) 0 ++ back)

/-- The length of the run of zeros at the start. -/
def zeroRun (pieces : List Nat) : Nat := (pieces.takeWhile (· = 0)).length

/-- The first longest run of at least two zeros: where it starts and how long it is. -/
def longestGap (pieces : List Nat) : Option (Nat × Nat) :=
  (List.range pieces.length).foldl (fun best start =>
    let run := zeroRun (pieces.drop start)
    match best with
    | some (_, length) => if length < run then some (start, run) else best
    | none => if 1 < run then some (start, run) else none) none

/-- Pieces with colons between them. -/
def colonText (pieces : List Nat) : String := ":".intercalate (pieces.map hexText)

/-- An IPv6 address with its first longest run of zeros left out. -/
def ipv6Text (pieces : List Nat) : String :=
  match longestGap pieces with
  | none => colonText pieces
  | some (start, length) =>
    colonText (pieces.take start) ++ "::" ++ colonText (pieces.drop (start + length))

/-! ## Hosts -/

/-- Reads the host of a URL with a special scheme. -/
def parse (cs : List Char) : Except UrlError Host :=
  if cs.head? = some '[' then
    if cs.getLast? = some ']' then
      match ipv6? (cs.drop 1).dropLast with
      | some pieces => .ok (.ipv6 pieces)
      | none => .error .invalidIpv6
    else .error .invalidIpv6
  else
    match Domain.toAscii? (Text.decodeLossy (Text.percentDecode cs)).toList with
    | none => .error .invalidDomain
    | some [] => .error .emptyHost
    | some name =>
      if endsInNumber name then
        match ipv4? name with
        | some address => .ok (.ipv4 address)
        | none => .error .invalidIpv4
      else .ok (.domain (String.ofList name))

/-- Characters that no opaque host has. -/
def isForbiddenOpaque (c : Char) : Bool :=
  c.toNat = 0 || "\t\n\r #/:<>?@[\\]^|".toList.contains c

/-- Reads the host of a URL with another scheme; it stays as it is, with control characters and
characters beyond ASCII escaped. -/
def parseOpaque (cs : List Char) : Except UrlError Host :=
  if cs.head? = some '[' then parse cs
  else if cs.any isForbiddenOpaque then .error .invalidDomainCharacter
  else .ok (.domain (String.ofList (Text.percentEncodeBytes
    (fun c => 0x20 ≤ c.toNat && c.toNat ≠ 0x7F) (Text.utf8 (String.ofList cs)))))

def text : Host → String
  | .domain name => name
  | .ipv4 address => ipv4Text address
  | .ipv6 pieces => "[" ++ ipv6Text pieces ++ "]"

end Host

end CloudLifecycle

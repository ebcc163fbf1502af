/-!
# Text as UTF-8 bytes

`utf8 s` is the list of bytes of a text.  `decodeLossy` reads any bytes as text: each maximal piece
that starts a well-formed sequence but cannot go on, and each byte that starts none, becomes one
replacement character U+FFFD; `decode?` refuses such bytes.  A byte order mark is an ordinary
character.
-/

set_option autoImplicit false

namespace CloudLifecycle.Text

/-- The UTF-8 bytes of a text. -/
def utf8 (s : String) : List UInt8 := s.toList.flatMap String.utf8EncodeChar

/-- A sequence that has begun: the bits so far, the bytes still to come, and the range that the
next of them has to lie in. -/
structure Pending where
  bits : Nat
  missing : Nat
  low : Nat
  high : Nat

/-- What a first byte begins: a whole character, a sequence, or nothing. -/
inductive Lead where
  | whole (c : Char)
  | sequence (p : Pending)
  | invalid

/-- Reads a first byte.  The ranges of the second byte rule out overlong forms, surrogates and
numbers beyond U+10FFFF. -/
def lead (byte : UInt8) : Lead :=
  let b := byte.toNat
  if b < 0x80 then .whole (Char.ofNat b)
  else if b < 0xC2 then .invalid
  else if b < 0xE0 then .sequence ⟨b - 0xC0, 1, 0x80, 0xBF⟩
  else if b = 0xE0 then .sequence ⟨0, 2, 0xA0, 0xBF⟩
  else if b = 0xED then .sequence ⟨b - 0xE0, 2, 0x80, 0x9F⟩
  else if b < 0xF0 then .sequence ⟨b - 0xE0, 2, 0x80, 0xBF⟩
  else if b = 0xF0 then .sequence ⟨0, 3, 0x90, 0xBF⟩
  else if b < 0xF4 then .sequence ⟨b - 0xF0, 3, 0x80, 0xBF⟩
  else if b = 0xF4 then .sequence ⟨b - 0xF0, 3, 0x80, 0x8F⟩
  else .invalid

/-- The character that stands for bytes that are no text. -/
def replacement : Char := '\uFFFD'

/-- The decoder's state after a first byte, with what it writes. -/
def begin (byte : UInt8) : List Char × Option Pending :=
  match lead byte with
  | .whole c => ([c], none)
  | .sequence p => ([], some p)
  | .invalid => ([replacement], none)

/-- Takes in one byte: the characters it completes and the sequence that is open afterwards. -/
def step (state : Option Pending) (byte : UInt8) : List Char × Option Pending :=
  match state with
  | none => begin byte
  | some p =>
    let b := byte.toNat
    if p.low ≤ b && b ≤ p.high then
      let bits := p.bits * 64 + (b - 0x80)
      if p.missing ≤ 1 then ([Char.ofNat bits], none)
      else ([], some ⟨bits, p.missing - 1, 0x80, 0xBF⟩)
    else
      let (cs, next) := begin byte
      (replacement :: cs, next)

def decodeFrom : Option Pending → List UInt8 → List Char
  | none, [] => []
  | some _, [] => [replacement]
  | state, byte :: rest =>
    let (cs, next) := step state byte
    cs ++ decodeFrom next rest

/-- The text of any bytes, with U+FFFD for what is not UTF-8. -/
def decodeLossy (bytes : List UInt8) : String := String.ofList (decodeFrom none bytes)

/-- The text of bytes that are UTF-8. -/
def decode? (bytes : List UInt8) : Option String :=
  if utf8 (decodeLossy bytes) = bytes then some (decodeLossy bytes) else none

end CloudLifecycle.Text

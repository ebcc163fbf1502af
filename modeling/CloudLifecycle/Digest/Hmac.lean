import CloudLifecycle.Digest.Sha256
import CloudLifecycle.Text.Base64
import CloudLifecycle.Text.Utf8

/-!
# Keyed digests

HMAC with SHA-256: a key of at most 64 bytes is filled up with zeros, a longer one is replaced by
its digest first, and the message is hashed twice with two masks of the key.  `signature` is the
Base64 text of the keyed digest of a text.
-/

set_option autoImplicit false

namespace CloudLifecycle.Hmac

/-- The key as a block of 64 bytes. -/
def blockKey (key : List UInt8) : List UInt8 :=
  let short := if key.length ≤ 64 then key else Sha256.digest key
  short ++ List.replicate (64 - short.length) 0

def mask (byte : UInt8) (key : List UInt8) : List UInt8 := (blockKey key).map (· ^^^ byte)

/-- The keyed digest of a message. -/
def digest (key message : List UInt8) : List UInt8 :=
  Sha256.digest (mask 0x5c key ++ Sha256.digest (mask 0x36 key ++ message))

/-- The Base64 text of the keyed digest of a text. -/
def signature (secret message : String) : String :=
  Base64.encode (digest (Text.utf8 secret) (Text.utf8 message))

-- The second of the published test vectors for HMAC with SHA-256.
example : signature "Jefe" "what do ya want for nothing?" =
    "W9zBRr9gdU5qBCQmCJV1x1oAPwidJzmDnexYuWTsOEM=" := by decide +kernel

theorem length_blockKey (key : List UInt8) : (blockKey key).length = 64 := by
  unfold blockKey
  split
  · simp only [List.length_append, List.length_replicate]
    omega
  · simp [Sha256.length_digest]

end CloudLifecycle.Hmac

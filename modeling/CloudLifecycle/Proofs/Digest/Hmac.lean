import CloudLifecycle.Digest.Hmac
import CloudLifecycle.Proofs.Digest.Sha256

/-!
# Signatures by their formulas

`Standard.signature` is the signature of a text as its definition writes it down: the bytes of the
key and of the text, the two passes of `Standard.sha256` over a block of the masked key, and a
character of Base64 for every six bits.  `Hmac.signature` gives the same text
(`Hmac.signature_eq`).
-/

set_option autoImplicit false

namespace CloudLifecycle

/-! ## The formulas -/

namespace Standard

/-- The block of a key, masked: a long key counts as its digest, and zeros fill up a short one. -/
def keyBlock (mask : UInt8) (key : List UInt8) : List UInt8 :=
  (List.range 64).map fun i => (if key.length ≤ 64 then key else sha256 key).getD i 0 ^^^ mask

/-- The keyed digest of a message. -/
def hmac (key message : List UInt8) : List UInt8 :=
  sha256 (keyBlock 0x5c key ++ sha256 (keyBlock 0x36 key ++ message))

/-- The characters of Base64. -/
def alphabet : List Char :=
  "ABCDEFGHIJKLMNOPQRSTUVWXYZabcdefghijklmnopqrstuvwxyz0123456789+/".toList

/-- Six bits of a text of bytes, which stand in one byte or in two; behind the text are zeros. -/
def sextet (bytes : List UInt8) (i : Nat) : Nat :=
  ((bytes.getD (6 * i / 8) 0).toNat * 256 + (bytes.getD (6 * i / 8 + 1) 0).toNat)
    / 2 ^ (10 - 6 * i % 8) % 64

/-- A character for every six bits, filled up to groups of four characters. -/
def base64 (bytes : List UInt8) : String :=
  let count := (8 * bytes.length + 5) / 6
  String.ofList ((List.range count).map (fun i => alphabet.getD (sextet bytes i) '=')
    ++ List.replicate ((4 - count % 4) % 4) '=')

/-- The bytes of a text. -/
def bytesOf (s : String) : List UInt8 := s.toUTF8.data.toList

/-- The signature of a text under a secret. -/
def signature (secret message : String) : String := base64 (hmac (bytesOf secret) (bytesOf message))

end Standard

/-! ## Bytes -/

theorem Text.utf8_eq (s : String) : utf8 s = Standard.bytesOf s := by
  rw [Standard.bytesOf, String.toUTF8_eq_toByteArray, ← String.utf8Encode_toList]
  exact List.toList_data_toByteArray.symm

/-! ## Base64 -/

namespace Base64

open Standard

theorem symbol_eq {n : Nat} (h : n < 64) : symbol n = alphabet.getD n '=' := by
  have all : ∀ n : Fin 64, symbol n = alphabet.getD n '=' := by decide +kernel
  exact all ⟨n, h⟩

section Sextets

variable (a b c : UInt8) (rest : List UInt8)

theorem sextet_zero : sextet (a :: rest) 0 = a.toNat / 4 := by
  have low := (rest.getD 0 0).toNat_lt
  have high := a.toNat_lt
  show (a.toNat * 256 + (rest.getD 0 0).toNat) / 2 ^ 10 % 64 = _
  omega

theorem sextet_one : sextet (a :: rest) 1 = a.toNat % 4 * 16 + (rest.getD 0 0).toNat / 16 := by
  have low := (rest.getD 0 0).toNat_lt
  show (a.toNat * 256 + (rest.getD 0 0).toNat) / 2 ^ 4 % 64 = _
  omega

theorem sextet_two :
    sextet (a :: b :: rest) 2 = b.toNat % 16 * 4 + (rest.getD 0 0).toNat / 64 := by
  have low := (rest.getD 0 0).toNat_lt
  show (b.toNat * 256 + (rest.getD 0 0).toNat) / 2 ^ 6 % 64 = _
  omega

theorem sextet_three : sextet (a :: b :: c :: rest) 3 = c.toNat % 64 := by
  have low := (rest.getD 0 0).toNat_lt
  show (c.toNat * 256 + (rest.getD 0 0).toNat) / 2 ^ 8 % 64 = _
  omega

/-- Three bytes are four times six bits. -/
theorem sextet_add (i : Nat) : sextet (a :: b :: c :: rest) (i + 4) = sextet rest i := by
  have place : 6 * (i + 4) / 8 = 6 * i / 8 + 3 := by omega
  have offset : 6 * (i + 4) % 8 = 6 * i % 8 := by omega
  rw [sextet, sextet, place, offset]
  rfl

end Sextets

theorem sextet_lt (bytes : List UInt8) (i : Nat) : sextet bytes i < 64 :=
  Nat.mod_lt _ (by decide)

theorem encodeChars_eq (bytes : List UInt8) : encodeChars bytes =
    (List.range ((8 * bytes.length + 5) / 6)).map (fun i => alphabet.getD (sextet bytes i) '=')
      ++ List.replicate ((4 - (8 * bytes.length + 5) / 6 % 4) % 4) '=' := by
  induction bytes using encodeChars.induct with
  | case1 => rfl
  | case2 a =>
    have second : sextet [a] 1 = a.toNat % 4 * 16 := sextet_one a []
    have count : (8 * [a].length + 5) / 6 = 2 := by simp
    rw [encodeChars, ← sextet_zero a [], ← second, symbol_eq (sextet_lt _ _),
      symbol_eq (sextet_lt _ _), count]
    rfl
  | case3 a b =>
    have second : sextet [a, b] 1 = a.toNat % 4 * 16 + b.toNat / 16 := sextet_one a [b]
    have third : sextet [a, b] 2 = b.toNat % 16 * 4 := sextet_two a b []
    have count : (8 * [a, b].length + 5) / 6 = 3 := by simp
    rw [encodeChars, ← sextet_zero a [b], ← second, ← third, symbol_eq (sextet_lt _ _),
      symbol_eq (sextet_lt _ _), symbol_eq (sextet_lt _ _), count]
    rfl
  | case4 a b c rest ih =>
    have second : sextet (a :: b :: c :: rest) 1 = a.toNat % 4 * 16 + b.toNat / 16 :=
      sextet_one a (b :: c :: rest)
    have third : sextet (a :: b :: c :: rest) 2 = b.toNat % 16 * 4 + c.toNat / 64 :=
      sextet_two a b (c :: rest)
    have count : (8 * (a :: b :: c :: rest).length + 5) / 6 = 4 + (8 * rest.length + 5) / 6 := by
      simp only [List.length_cons]
      omega
    have padding : (4 - (4 + (8 * rest.length + 5) / 6) % 4) % 4 =
        (4 - (8 * rest.length + 5) / 6 % 4) % 4 := by omega
    rw [encodeChars, ← sextet_zero a (b :: c :: rest), ← second, ← third,
      ← sextet_three a b c rest, symbol_eq (sextet_lt _ _), symbol_eq (sextet_lt _ _),
      symbol_eq (sextet_lt _ _), symbol_eq (sextet_lt _ _), ih, count, padding, List.range_add,
      List.map_append, List.map_map]
    simp only [Function.comp_def, Nat.add_comm 4, sextet_add]
    rfl

theorem encode_eq (bytes : List UInt8) : encode bytes = base64 bytes := by
  rw [encode, encodeChars_eq]
  rfl

end Base64

/-! ## Keyed digests -/

namespace Hmac

/-- Zeros behind a text of bytes are what is found behind it anyway. -/
theorem getD_append_zeros (bytes : List UInt8) (count i : Nat) :
    (bytes ++ List.replicate count 0).getD i 0 = bytes.getD i 0 := by
  rw [List.getD_eq_getElem?_getD, List.getD_eq_getElem?_getD, List.getElem?_append]
  split
  · rfl
  · rename_i behind
    rw [List.getElem?_replicate, List.getElem?_eq_none (Nat.le_of_not_lt behind)]
    split <;> rfl

theorem mask_eq (byte : UInt8) (key : List UInt8) :
    mask byte key = Standard.keyBlock byte key := by
  have length : (mask byte key).length = 64 := by rw [mask, List.length_map, length_blockKey]
  apply List.ext_getElem
  · simp [length, Standard.keyBlock]
  · intro i hi _
    have place : i < (blockKey key).length := by rwa [mask, List.length_map] at hi
    have found : (blockKey key).getD i 0 = (blockKey key)[i] := by
      rw [List.getD_eq_getElem?_getD, List.getElem?_eq_getElem place, Option.getD_some]
    have own : (blockKey key)[i] =
        (if key.length ≤ 64 then key else Standard.sha256 key).getD i 0 := by
      rw [← found, blockKey, getD_append_zeros, Sha256.digest_eq]
    simp only [mask, Standard.keyBlock, List.getElem_map, List.getElem_range, own]

theorem digest_eq (key message : List UInt8) : digest key message = Standard.hmac key message := by
  rw [digest, Standard.hmac, mask_eq, mask_eq, Sha256.digest_eq, Sha256.digest_eq]

/-- **The signature is the one of the formulas.** -/
theorem signature_eq (secret message : String) :
    signature secret message = Standard.signature secret message := by
  rw [signature, Standard.signature, Base64.encode_eq, digest_eq, Text.utf8_eq, Text.utf8_eq]

end Hmac

end CloudLifecycle

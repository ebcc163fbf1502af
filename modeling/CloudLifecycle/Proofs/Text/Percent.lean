import CloudLifecycle.Proofs.Text.Bytes
import CloudLifecycle.Text.Percent

/-!
# Percent-encoding read back

An encoded text is made of unreserved characters and of escapes with upper-case digits
(`Text.escaped_percentEncode`), so that no mark which separates the parts of a query is in it, and
decoding gives the bytes of the text again (`Text.percentDecode_percentEncode`).
-/

set_option autoImplicit false

namespace CloudLifecycle.Text

/-- A hexadecimal digit whose letters are upper-case. -/
def isUpperHex (c : Char) : Bool := ('0' ≤ c && c ≤ '9') || ('A' ≤ c && c ≤ 'F')

/-- Unreserved characters and escapes with upper-case digits, one after another. -/
inductive Escaped : List Char → Prop where
  | nil : Escaped []
  | plain {c : Char} {rest : List Char} (h : isUnreserved c) (more : Escaped rest) :
      Escaped (c :: rest)
  | escape {high low : Char} {rest : List Char} (hh : isUpperHex high) (hl : isUpperHex low)
      (more : Escaped rest) : Escaped ('%' :: high :: low :: rest)

/-! ## One byte -/

theorem isUpperHex_hexDigit {n : Nat} (h : n < 16) : isUpperHex (hexDigit n) := by
  have all : ∀ n : Fin 16, isUpperHex (hexDigit n) := by decide
  exact all ⟨n, h⟩

theorem hexValue?_hexDigit {n : Nat} (h : n < 16) : hexValue? (hexDigit n) = some n := by
  have all : ∀ n : Fin 16, hexValue? (hexDigit n) = some n.val := by decide
  exact all ⟨n, h⟩

theorem toNat_of_isUpperHex {c : Char} (h : isUpperHex c) : c.toNat < 128 := by
  have nine : ('9' : Char).val.toNat = 57 := rfl
  have f : ('F' : Char).val.toNat = 70 := rfl
  have value : c.val.toNat = c.toNat := rfl
  simp only [isUpperHex, Bool.or_eq_true, Bool.and_eq_true, decide_eq_true_eq, Char.le_def,
    UInt32.le_iff_toNat_le] at h
  omega

/-- A character of ASCII is its own byte. -/
theorem utf8EncodeChar_ofNat {n : Nat} (h : n < 128) :
    String.utf8EncodeChar (Char.ofNat n) = [UInt8.ofNat n] := by
  have valid : n.isValidChar := Or.inl (by omega)
  have value : (Char.ofNat n).toNat = n := by
    rw [Char.ofNat, dif_pos valid]
    exact UInt32.toNat_ofNatLT
  unfold String.utf8EncodeChar
  simp only [Char.toNat_val, value]
  rw [if_pos (by omega)]

/-- A byte of ASCII is the whole encoding of its character. -/
theorem eq_of_mem_utf8EncodeChar {c : Char} {b : UInt8} (h : b ∈ String.utf8EncodeChar c)
    (ascii : b.toNat < 128) : c = Char.ofNat b.toNat := by
  have high {n : Nat} (hn : 128 ≤ n) (hl : n < 256) : b ≠ UInt8.ofNat n := by
    rintro rfl
    rw [toNat_ofNat hl] at ascii
    omega
  unfold String.utf8EncodeChar at h
  simp only [Char.toNat_val] at h
  split at h
  · obtain rfl := List.mem_singleton.1 h
    rw [toNat_ofNat (by omega), Char.ofNat_toNat]
  · exfalso
    split at h
    · simp only [List.mem_cons, List.not_mem_nil, or_false] at h
      rcases h with h | h <;> exact high (by omega) (by omega) h
    · split at h
      · simp only [List.mem_cons, List.not_mem_nil, or_false] at h
        rcases h with h | h | h <;> exact high (by omega) (by omega) h
      · simp only [List.mem_cons, List.not_mem_nil, or_false] at h
        rcases h with h | h | h | h <;> exact high (by omega) (by omega) h

/-- What starts no escape stands for itself. -/
theorem percentDecode_of_ne {c : Char} (h : c ≠ '%') (rest : List Char) :
    percentDecode (c :: rest) = String.utf8EncodeChar c ++ percentDecode rest := by
  rw [percentDecode]
  rintro a b tail rfl
  exact absurd rfl h

theorem percentDecode_escapeByte (b : UInt8) (rest : List Char) :
    percentDecode (escapeByte b ++ rest) = b :: percentDecode rest := by
  have bound : b.toNat < 256 := b.toNat_lt
  have high := hexValue?_hexDigit (n := b.toNat / 16) (by omega)
  have low := hexValue?_hexDigit (n := b.toNat % 16) (by omega)
  have value : b.toNat / 16 * 16 + b.toNat % 16 = b.toNat := by omega
  show percentDecode ('%' :: hexDigit (b.toNat / 16) :: hexDigit (b.toNat % 16) :: rest) = _
  rw [percentDecode, high, low]
  simp only [value, UInt8.ofNat_toNat]

/-! ## All bytes -/

section Bytes

variable {keep : Char → Bool}

/-- Escaped bytes are read back, whatever follows them, unless the mark of an escape is among those
that are kept. -/
theorem percentDecode_percentEncodeBytes {bytes : List UInt8}
    (h : ∀ b ∈ bytes, b.toNat < 128 → keep (Char.ofNat b.toNat) → Char.ofNat b.toNat ≠ '%')
    (rest : List Char) :
    percentDecode (percentEncodeBytes keep bytes ++ rest) = bytes ++ percentDecode rest := by
  induction bytes with
  | nil => rfl
  | cons b bytes ih =>
    obtain ⟨first, others⟩ := List.forall_mem_cons.1 h
    show percentDecode (((if b.toNat < 128 && keep (Char.ofNat b.toNat) then
      [Char.ofNat b.toNat] else escapeByte b) ++ percentEncodeBytes keep bytes) ++ rest) = _
    rw [List.append_assoc, List.cons_append, ← ih others]
    split
    · rename_i kept
      simp only [Bool.and_eq_true, decide_eq_true_eq] at kept
      rw [List.singleton_append, percentDecode_of_ne (first kept.1 kept.2),
        utf8EncodeChar_ofNat kept.1, UInt8.ofNat_toNat, List.singleton_append]
    · exact percentDecode_escapeByte b _

theorem escaped_percentEncodeBytes (bytes : List UInt8) :
    Escaped (percentEncodeBytes isUnreserved bytes) := by
  induction bytes with
  | nil => exact .nil
  | cons b bytes ih =>
    show Escaped ((if b.toNat < 128 && isUnreserved (Char.ofNat b.toNat) then
      [Char.ofNat b.toNat] else escapeByte b) ++ percentEncodeBytes isUnreserved bytes)
    have bound : b.toNat < 256 := b.toNat_lt
    split
    · rename_i kept
      simp only [Bool.and_eq_true] at kept
      exact .plain kept.2 ih
    · apply Escaped.escape
      · exact isUpperHex_hexDigit (by omega)
      · exact isUpperHex_hexDigit (by omega)
      · exact ih

/-- A byte is written as three characters at most. -/
theorem length_percentEncodeBytes_le (keep : Char → Bool) (bytes : List UInt8) :
    (percentEncodeBytes keep bytes).length ≤ 3 * bytes.length := by
  unfold percentEncodeBytes
  induction bytes with
  | nil => exact Nat.le_refl 0
  | cons b bytes ih =>
    rw [List.flatMap_cons, List.length_append, List.length_cons]
    have own : (if b.toNat < 128 && keep (Char.ofNat b.toNat) then [Char.ofNat b.toNat]
        else escapeByte b).length ≤ 3 := by
      split
      · exact Nat.le_add_left 1 2
      · exact Nat.le_refl 3
    omega

end Bytes

/-- **An encoded text has unreserved characters and escapes only.** -/
theorem escaped_percentEncode (s : String) : Escaped (percentEncode s).toList := by
  rw [percentEncode, String.toList_ofList]
  exact escaped_percentEncodeBytes _

/-- **Decoding gives the bytes of the text again.** -/
theorem percentDecode_percentEncode (s : String) :
    percentDecode (percentEncode s).toList = utf8 s := by
  have mark (b : UInt8) (kept : isUnreserved (Char.ofNat b.toNat)) : Char.ofNat b.toNat ≠ '%' := by
    intro same
    rw [same] at kept
    exact absurd kept (by decide)
  have read := percentDecode_percentEncodeBytes (fun b (_ : b ∈ utf8 s) _ => mark b) []
  rw [List.append_nil, percentDecode, List.append_nil] at read
  rw [percentEncode, String.toList_ofList, read]

theorem utf8ByteSize_percentEncode_le (s : String) :
    (percentEncode s).utf8ByteSize ≤ 12 * s.utf8ByteSize := by
  have chars := length_percentEncodeBytes_le isUnreserved (utf8 s)
  have bytes := utf8ByteSize_ofList_le (percentEncodeBytes isUnreserved (utf8 s))
  rw [length_utf8] at chars
  rw [percentEncode]
  omega

/-- A character of an encoded text is unreserved or the mark of an escape. -/
theorem Escaped.mem {cs : List Char} (h : Escaped cs) {c : Char} (hc : c ∈ cs) :
    isUnreserved c ∨ c = '%' := by
  have digit {d : Char} (hd : isUpperHex d) : isUnreserved d :=
    of_ascii (P := fun d => isUpperHex d → isUnreserved d) (by decide) (toNat_of_isUpperHex hd) hd
  induction h with
  | nil => cases hc
  | plain h _ ih =>
    rcases List.mem_cons.1 hc with rfl | hc
    · exact .inl h
    · exact ih hc
  | escape hh hl _ ih =>
    simp only [List.mem_cons] at hc
    rcases hc with rfl | rfl | rfl | hc
    · exact .inr rfl
    · exact .inl (digit hh)
    · exact .inl (digit hl)
    · exact ih hc

/-- No mark that means something in a URL is in an encoded text, but that of an escape. -/
theorem not_mem_percentEncode {c : Char} (reserved : isUnreserved c = false) (other : c ≠ '%')
    (s : String) : c ∉ (percentEncode s).toList := by
  intro member
  rcases (escaped_percentEncode s).mem member with plain | mark
  · rw [reserved] at plain
    cases plain
  · exact other mark

end CloudLifecycle.Text

import CloudLifecycle.Text.Base64
import CloudLifecycle.Text.Utf8
import Mathlib.Data.Nat.Notation

/-!
# Texts and bytes survive their encodings

The bytes of a text are read as the text again, by the lossy decoder and by the strict one
(`Text.decodeLossy_utf8`, `Text.decode?_utf8`), and Base64 gives back the bytes that it was made of
(`Base64.decode?_encode`).
-/

set_option autoImplicit false

namespace CloudLifecycle

/-! ## ASCII -/

namespace Text

/-- What is true of all characters of ASCII is true of one that is known to be among them. -/
theorem of_ascii {P : Char → Prop} (all : ∀ n : Fin 128, P (Char.ofNat n)) {c : Char}
    (h : c.toNat < 128) : P c := by
  have self := all ⟨c.toNat, h⟩
  rwa [Char.ofNat_toNat] at self

/-- Letters and digits are visible characters of ASCII. -/
theorem toNat_of_isAlphanum {c : Char} (h : c.isAlphanum) : 0x20 < c.toNat ∧ c.toNat < 0x7F := by
  have kinds : c.isAlphanum = (decide (c.val ≥ 65 ∧ c.val ≤ 90) ||
      (decide (c.val ≥ 97) && decide (c.val ≤ 122)) ||
      (decide (c.val ≥ 48) && decide (c.val ≤ 57))) := rfl
  simp only [kinds, Bool.or_eq_true, Bool.and_eq_true, decide_eq_true_eq, ge_iff_le,
    UInt32.le_iff_toNat_le, Char.toNat_val, UInt32.reduceToNat] at h
  omega

end Text

/-! ## UTF-8 -/

namespace Text

theorem toNat_ofNat {n : Nat} (h : n < 256) : (UInt8.ofNat n).toNat = n :=
  UInt8.toNat_ofNat_of_lt h

/-- A first byte that begins a sequence is taken without writing anything. -/
theorem decodeFrom_lead {byte : UInt8} {p : Pending} (h : lead byte = .sequence p)
    (rest : List UInt8) : decodeFrom none (byte :: rest) = decodeFrom (some p) rest := by
  simp [decodeFrom, step, begin, h]

section Tail

variable {bits low high k : Nat} (six : k < 64) (least : low ≤ k + 0x80) (most : k + 0x80 ≤ high)
  (rest : List UInt8)

include six least most

/-- A further byte adds six bits. -/
theorem decodeFrom_more (missing : Nat) :
    decodeFrom (some ⟨bits, missing + 2, low, high⟩) (UInt8.ofNat (k + 0x80) :: rest) =
      decodeFrom (some ⟨bits * 64 + k, missing + 1, 0x80, 0xBF⟩) rest := by
  have byte : (UInt8.ofNat (k + 0x80)).toNat = k + 0x80 := toNat_ofNat (by omega)
  generalize UInt8.ofNat (k + 0x80) = b at byte
  simp [decodeFrom, step, byte, least, most]

/-- The last byte completes the character. -/
theorem decodeFrom_last :
    decodeFrom (some ⟨bits, 1, low, high⟩) (UInt8.ofNat (k + 0x80) :: rest) =
      Char.ofNat (bits * 64 + k) :: decodeFrom none rest := by
  have byte : (UInt8.ofNat (k + 0x80)).toNat = k + 0x80 := toNat_ofNat (by omega)
  generalize UInt8.ofNat (k + 0x80) = b at byte
  simp [decodeFrom, step, byte, least, most]

end Tail

theorem lead_ascii {n : Nat} (h : n < 0x80) :
    lead (UInt8.ofNat n) = .whole (Char.ofNat n) := by
  have byte : (UInt8.ofNat n).toNat = n := toNat_ofNat (by omega)
  simp [lead, byte, h]

theorem lead_two {n : Nat} (low : 0x80 ≤ n) (high : n < 0x800) :
    lead (UInt8.ofNat (n / 64 + 0xC0)) = .sequence ⟨n / 64, 1, 0x80, 0xBF⟩ := by
  have byte : (UInt8.ofNat (n / 64 + 0xC0)).toNat = n / 64 + 0xC0 := toNat_ofNat (by omega)
  unfold lead
  simp only [byte]
  rw [if_neg (by omega), if_neg (by omega), if_pos (by omega), Nat.add_sub_cancel]

/-- The range of the second byte leaves out overlong forms and surrogates only. -/
theorem lead_three {n : Nat} (low : 0x800 ≤ n) (high : n < 0x10000)
    (scalar : n < 0xD800 ∨ 0xDFFF < n) :
    ∃ least most, lead (UInt8.ofNat (n / 4096 + 0xE0)) = .sequence ⟨n / 4096, 2, least, most⟩ ∧
      least ≤ n / 64 % 64 + 0x80 ∧ n / 64 % 64 + 0x80 ≤ most := by
  have byte : (UInt8.ofNat (n / 4096 + 0xE0)).toNat = n / 4096 + 0xE0 := toNat_ofNat (by omega)
  unfold lead
  simp only [byte]
  rw [if_neg (by omega), if_neg (by omega), if_neg (by omega)]
  split
  · have zero : n / 4096 = 0 := by omega
    rw [zero]
    exact ⟨_, _, rfl, by omega, by omega⟩
  · split
    · rw [Nat.add_sub_cancel]
      exact ⟨_, _, rfl, by omega, by omega⟩
    · rw [if_pos (by omega), Nat.add_sub_cancel]
      exact ⟨_, _, rfl, by omega, by omega⟩

/-- The range of the second byte leaves out overlong forms and what is beyond U+10FFFF only. -/
theorem lead_four {n : Nat} (low : 0x10000 ≤ n) (high : n < 0x110000) :
    ∃ least most, lead (UInt8.ofNat (n / 262144 + 0xF0)) = .sequence ⟨n / 262144, 3, least, most⟩ ∧
      least ≤ n / 4096 % 64 + 0x80 ∧ n / 4096 % 64 + 0x80 ≤ most := by
  have byte : (UInt8.ofNat (n / 262144 + 0xF0)).toNat = n / 262144 + 0xF0 := toNat_ofNat (by omega)
  unfold lead
  simp only [byte]
  rw [if_neg (by omega), if_neg (by omega), if_neg (by omega), if_neg (by omega), if_neg (by omega),
    if_neg (by omega)]
  split
  · have zero : n / 262144 = 0 := by omega
    rw [zero]
    exact ⟨_, _, rfl, by omega, by omega⟩
  · split
    · rw [Nat.add_sub_cancel]
      exact ⟨_, _, rfl, by omega, by omega⟩
    · rw [if_pos (by omega), Nat.add_sub_cancel]
      exact ⟨_, _, rfl, by omega, by omega⟩

/-- The bytes of a character are read as the character. -/
theorem decodeFrom_utf8EncodeChar (c : Char) (rest : List UInt8) :
    decodeFrom none (String.utf8EncodeChar c ++ rest) = c :: decodeFrom none rest := by
  have scalar : c.toNat < 0xD800 ∨ (0xDFFF < c.toNat ∧ c.toNat < 0x110000) := c.valid
  have self : Char.ofNat c.toNat = c := Char.ofNat_toNat c
  have value : c.val.toNat = c.toNat := rfl
  unfold String.utf8EncodeChar
  simp only [value]
  generalize c.toNat = n at scalar self
  have six (m : Nat) : m % 64 < 64 := Nat.mod_lt _ (by decide)
  have least (m : Nat) : 0x80 ≤ m % 64 + 0x80 := Nat.le_add_left _ _
  have most (m : Nat) : m % 64 + 0x80 ≤ 0xBF := by omega
  split
  · rename_i ascii
    have whole := lead_ascii (n := n) (by omega)
    simp [decodeFrom, step, begin, whole, self]
  · split
    · -- Two bytes.
      have first : n / 64 % 0x20 = n / 64 := by omega
      have bits : n / 64 * 64 + n % 64 = n := by omega
      rw [first, List.cons_append, decodeFrom_lead (lead_two (n := n) (by omega) (by omega)),
        List.cons_append, List.nil_append, decodeFrom_last (six _) (least _) (most _), bits, self]
    · split
      · -- Three bytes.
        have first : n / 4096 % 0x10 = n / 4096 := by omega
        have bits : (n / 4096 * 64 + n / 64 % 64) * 64 + n % 64 = n := by omega
        obtain ⟨low, high, begins, above, below⟩ :=
          lead_three (n := n) (by omega) (by omega) (by omega)
        rw [first, List.cons_append, decodeFrom_lead begins, List.cons_append,
          decodeFrom_more (six _) above below, List.cons_append, List.nil_append,
          decodeFrom_last (six _) (least _) (most _), bits, self]
      · -- Four bytes.
        have first : n / 262144 % 0x08 = n / 262144 := by omega
        have bits : ((n / 262144 * 64 + n / 4096 % 64) * 64 + n / 64 % 64) * 64 + n % 64 = n := by
          omega
        obtain ⟨low, high, begins, above, below⟩ := lead_four (n := n) (by omega) (by omega)
        rw [first, List.cons_append, decodeFrom_lead begins, List.cons_append,
          decodeFrom_more (six _) above below, List.cons_append,
          decodeFrom_more (six _) (least _) (most _), List.cons_append, List.nil_append,
          decodeFrom_last (six _) (least _) (most _), bits, self]

theorem decodeFrom_utf8 (cs : List Char) :
    decodeFrom none (cs.flatMap String.utf8EncodeChar) = cs := by
  induction cs with
  | nil => rfl
  | cons c cs ih => rw [List.flatMap_cons, decodeFrom_utf8EncodeChar, ih]

/-- **The bytes of a text are read as the text.** -/
@[simp] theorem decodeLossy_utf8 (s : String) : decodeLossy (utf8 s) = s := by
  rw [decodeLossy, utf8, decodeFrom_utf8, String.ofList_toList]

@[simp] theorem decode?_utf8 (s : String) : decode? (utf8 s) = some s := by
  simp [decode?]

/-- A text has as many bytes as its size says. -/
theorem length_utf8 (s : String) : (utf8 s).length = s.utf8ByteSize := by
  have chars (cs : List Char) :
      (cs.flatMap String.utf8EncodeChar).length = (String.ofList cs).utf8ByteSize := by
    induction cs with
    | nil => rfl
    | cons c cs ih =>
      rw [List.flatMap_cons, List.length_append, ih, String.ofList_cons,
        String.utf8ByteSize_append, String.utf8ByteSize_singleton, String.length_utf8EncodeChar]
  rw [utf8, chars, String.ofList_toList]

/-- A character has four bytes at most. -/
theorem utf8ByteSize_ofList_le (cs : List Char) :
    (String.ofList cs).utf8ByteSize ≤ 4 * cs.length := by
  induction cs with
  | nil => exact Nat.le_refl 0
  | cons c cs ih =>
    have own := c.utf8Size_le_four
    rw [String.ofList_cons, String.utf8ByteSize_append, String.utf8ByteSize_singleton,
      List.length_cons]
    omega

end Text

/-! ## Base64 -/

namespace Base64

theorem value?_symbol {n : Nat} (h : n < 64) : value? (symbol n) = some n := by
  have all : ∀ n : Fin 64, value? (symbol n) = some n.val := by decide
  exact all ⟨n, h⟩

theorem symbol_ne_pad {n : Nat} (h : n < 64) : symbol n ≠ '=' := by
  have all : ∀ n : Fin 64, symbol n ≠ '=' := by decide
  exact all ⟨n, h⟩

theorem ofNat_eq {n : Nat} {byte : UInt8} (h : n = byte.toNat) : UInt8.ofNat n = byte := by
  rw [h, UInt8.ofNat_toNat]

theorem decodeChars_encodeChars (bytes : List UInt8) :
    decodeChars (encodeChars bytes) = some bytes := by
  induction bytes using encodeChars.induct with
  | case1 => rfl
  | case2 a =>
    have ha := a.toNat_lt
    have x := value?_symbol (n := a.toNat / 4) (by omega)
    have y := value?_symbol (n := a.toNat % 4 * 16) (by omega)
    have zero : a.toNat % 4 * 16 % 16 = 0 := by omega
    have first : UInt8.ofNat (a.toNat / 4 * 4 + a.toNat % 4 * 16 / 16) = a := ofNat_eq (by omega)
    simp only [encodeChars, decodeChars, x, y, Option.bind_eq_bind, Option.bind_some, zero, if_true,
      first]
  | case3 a b =>
    have ha := a.toNat_lt
    have hb := b.toNat_lt
    have x := value?_symbol (n := a.toNat / 4) (by omega)
    have y := value?_symbol (n := a.toNat % 4 * 16 + b.toNat / 16) (by omega)
    have z := value?_symbol (n := b.toNat % 16 * 4) (by omega)
    have unpadded := symbol_ne_pad (n := b.toNat % 16 * 4) (by omega)
    have zero : b.toNat % 16 * 4 % 4 = 0 := by omega
    have first : UInt8.ofNat (a.toNat / 4 * 4 + (a.toNat % 4 * 16 + b.toNat / 16) / 16) = a :=
      ofNat_eq (by omega)
    have second : UInt8.ofNat ((a.toNat % 4 * 16 + b.toNat / 16) % 16 * 16
        + b.toNat % 16 * 4 / 4) = b := ofNat_eq (by omega)
    rw [encodeChars, decodeChars]
    · simp only [x, y, z, Option.bind_eq_bind, Option.bind_some, zero, if_true, first, second]
    · exact unpadded
  | case4 a b c rest ih =>
    have ha := a.toNat_lt
    have hb := b.toNat_lt
    have hc := c.toNat_lt
    have x := value?_symbol (n := a.toNat / 4) (by omega)
    have y := value?_symbol (n := a.toNat % 4 * 16 + b.toNat / 16) (by omega)
    have z := value?_symbol (n := b.toNat % 16 * 4 + c.toNat / 64) (by omega)
    have w := value?_symbol (n := c.toNat % 64) (by omega)
    have unpadded := symbol_ne_pad (n := c.toNat % 64) (by omega)
    have first : UInt8.ofNat (a.toNat / 4 * 4 + (a.toNat % 4 * 16 + b.toNat / 16) / 16) = a :=
      ofNat_eq (by omega)
    have second : UInt8.ofNat ((a.toNat % 4 * 16 + b.toNat / 16) % 16 * 16
        + (b.toNat % 16 * 4 + c.toNat / 64) / 4) = b := ofNat_eq (by omega)
    have third : UInt8.ofNat ((b.toNat % 16 * 4 + c.toNat / 64) % 4 * 64 + c.toNat % 64) = c :=
      ofNat_eq (by omega)
    rw [encodeChars, decodeChars]
    · simp only [x, y, z, w, ih, Option.bind_eq_bind, Option.bind_some, first, second, third]
    · exact fun _ padded => absurd padded unpadded
    · exact fun padded => absurd padded unpadded

/-- **Base64 gives back the bytes that it was made of.** -/
@[simp] theorem decode?_encode (bytes : List UInt8) : decode? (encode bytes) = some bytes := by
  rw [decode?, encode, String.toList_ofList, decodeChars_encodeChars]

/-- A byte is written as four characters at most. -/
theorem length_encodeChars_le (bytes : List UInt8) :
    (encodeChars bytes).length ≤ 4 * bytes.length := by
  induction bytes using encodeChars.induct <;>
    simp only [encodeChars, List.length_cons, List.length_nil] <;> omega

end Base64

end CloudLifecycle

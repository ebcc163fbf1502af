import CloudLifecycle.Proofs.Text.Bytes

/-!
# The order of texts

Texts are ordered by their characters, and in the same way by their bytes (`Text.utf8_lt_of_lt`): of
two characters the lesser one has the lesser bytes, and neither begins with the other.
-/

set_option autoImplicit false

namespace CloudLifecycle.Text

variable {l l' : List UInt8}

theorem ofNat_lt_ofNat_iff {m n : Nat} (hm : m < 256) (hn : n < 256) :
    UInt8.ofNat m < UInt8.ofNat n ↔ m < n := by
  rw [UInt8.lt_iff_toNat_lt, toNat_ofNat hm, toNat_ofNat hn]

/-- Bytes are compared by the first one and, where it is the same, by the others. -/
theorem cons_ofNat_lt_iff {m n : Nat} (hm : m < 256) (hn : n < 256) :
    UInt8.ofNat m :: l < UInt8.ofNat n :: l' ↔ m < n ∨ m = n ∧ l < l' := by
  rw [List.cons_lt_cons_iff, ofNat_lt_ofNat_iff hm hn, ← UInt8.toNat_inj, toNat_ofNat hm,
    toNat_ofNat hn]

/-- The first byte decides where the numbers of bytes differ. -/
theorem cons_ofNat_lt {m n : Nat} (h : m < n) (hn : n < 256) :
    UInt8.ofNat m :: l < UInt8.ofNat n :: l' :=
  (cons_ofNat_lt_iff (by omega) hn).2 (.inl h)

/-- The lesser of two characters has the lesser bytes, whatever follows. -/
theorem utf8EncodeChar_append_lt {c d : Char} (h : c < d) :
    String.utf8EncodeChar c ++ l < String.utf8EncodeChar d ++ l' := by
  have less : c.toNat < d.toNat := h
  have scalar : d.toNat < 0xD800 ∨ (0xDFFF < d.toNat ∧ d.toNat < 0x110000) := d.valid
  unfold String.utf8EncodeChar
  simp only [Char.toNat_val]
  generalize c.toNat = m at less
  generalize d.toNat = n at less scalar
  by_cases one : m ≤ 127
  · -- A single byte is less than every other first byte.
    rw [if_pos one]
    split
    · exact cons_ofNat_lt less (by omega)
    · split
      · exact cons_ofNat_lt (by omega) (by omega)
      · split
        · exact cons_ofNat_lt (by omega) (by omega)
        · exact cons_ofNat_lt (by omega) (by omega)
  rw [if_neg one, if_neg (show ¬n ≤ 127 by omega)]
  by_cases two : m ≤ 2047
  · rw [if_pos two]
    split
    · simp only [List.cons_append, List.nil_append]
      rw [cons_ofNat_lt_iff (by omega) (by omega), cons_ofNat_lt_iff (by omega) (by omega)]
      omega
    · split
      · exact cons_ofNat_lt (by omega) (by omega)
      · exact cons_ofNat_lt (by omega) (by omega)
  rw [if_neg two, if_neg (show ¬n ≤ 2047 by omega)]
  by_cases three : m ≤ 65535
  · rw [if_pos three]
    split
    · simp only [List.cons_append, List.nil_append]
      rw [cons_ofNat_lt_iff (by omega) (by omega), cons_ofNat_lt_iff (by omega) (by omega),
        cons_ofNat_lt_iff (by omega) (by omega)]
      omega
    · exact cons_ofNat_lt (by omega) (by omega)
  · rw [if_neg three, if_neg (show ¬n ≤ 65535 by omega)]
    simp only [List.cons_append, List.nil_append]
    rw [cons_ofNat_lt_iff (by omega) (by omega), cons_ofNat_lt_iff (by omega) (by omega),
      cons_ofNat_lt_iff (by omega) (by omega), cons_ofNat_lt_iff (by omega) (by omega)]
    have first : m / 262144 < 8 ∧ n / 262144 < 8 := by omega
    have second : m / 4096 / 64 = m / 262144 ∧ n / 4096 / 64 = n / 262144 := by omega
    have third : m / 64 / 64 = m / 4096 ∧ n / 64 / 64 = n / 4096 := by omega
    omega

theorem flatMap_utf8EncodeChar_lt {cs ds : List Char} (h : cs < ds) :
    cs.flatMap String.utf8EncodeChar < ds.flatMap String.utf8EncodeChar := by
  induction cs generalizing ds with
  | nil =>
    cases ds with
    | nil => exact absurd h (List.lt_irrefl _)
    | cons d ds =>
      rw [List.flatMap_nil, List.flatMap_cons]
      obtain ⟨b, bytes, encoded⟩ :=
        List.exists_cons_of_ne_nil (String.utf8EncodeChar_ne_nil (c := d))
      rw [encoded]
      exact List.nil_lt_cons _ _
  | cons c cs ih =>
    cases ds with
    | nil => exact absurd h (List.not_lt_nil _)
    | cons d ds =>
      rw [List.flatMap_cons, List.flatMap_cons]
      rcases List.cons_lt_cons_iff.1 h with first | ⟨rfl, rest⟩
      · exact utf8EncodeChar_append_lt first
      · exact List.append_left_lt (ih rest)

/-- **The order of texts is the order of their bytes.** -/
theorem utf8_lt_of_lt {s t : String} (h : s < t) : utf8 s < utf8 t :=
  flatMap_utf8EncodeChar_lt h

end CloudLifecycle.Text

import CloudLifecycle.Number.Double
import Mathlib.Data.Nat.Log
import Mathlib.Tactic.Ring

/-!
# Rounding and powers of two

A magnitude with a significand of 53 binary digits is not changed by rounding
(`roundUnits_of_representable`), every rounded one is of this form, and rounding keeps the order.
So a product with a power of two is exact as long as it is finite, and the whole powers of two are
what they should be, up to the first one that is infinite (`power_two`).
-/

set_option autoImplicit false

namespace CloudLifecycle.Double

variable {num more den units j : Nat}

/-! ## To the nearest whole number -/

theorem roundHalfEven_mul (n : Nat) (positive : 0 < den) : roundHalfEven (n * den) den = n := by
  unfold roundHalfEven
  rw [Nat.mul_div_cancel _ positive, Nat.mul_mod_left]
  exact if_pos positive

theorem div_le_roundHalfEven (num den : Nat) : num / den ≤ roundHalfEven num den := by
  unfold roundHalfEven
  dsimp only
  split_ifs <;> omega

theorem roundHalfEven_le (num den : Nat) : roundHalfEven num den ≤ num / den + 1 := by
  unfold roundHalfEven
  dsimp only
  split_ifs <;> omega

/-- **Rounding keeps the order.** -/
theorem roundHalfEven_mono (h : num ≤ more) : roundHalfEven num den ≤ roundHalfEven more den := by
  rcases Nat.lt_or_eq_of_le (Nat.div_le_div_right h : num / den ≤ more / den) with less | same
  · exact (roundHalfEven_le num den).trans
      ((Nat.succ_le_of_lt less).trans (div_le_roundHalfEven more den))
  · have left := Nat.div_add_mod num den
    have right := Nat.div_add_mod more den
    rw [← same] at right
    unfold roundHalfEven
    rw [← same]
    dsimp only
    split_ifs <;> omega

theorem le_roundHalfEven {n : Nat} (positive : 0 < den) (h : n * den ≤ num) :
    n ≤ roundHalfEven num den := by
  rw [← roundHalfEven_mul n positive]
  exact roundHalfEven_mono h

theorem roundHalfEven_le_of_le {n : Nat} (positive : 0 < den) (h : num ≤ n * den) :
    roundHalfEven num den ≤ n := by
  rw [← roundHalfEven_mul n positive]
  exact roundHalfEven_mono h

/-! ## To a significand of 53 digits -/

theorem bitLength_le_iff {n : Nat} : bitLength n ≤ j ↔ n < 2 ^ j := by
  unfold bitLength
  split
  · rename_i zero
    simp [zero]
  · rename_i some_
    exact Nat.log2_lt some_

/-- The magnitude has a significand of 53 binary digits. -/
def Representable (units : Nat) : Prop :=
  ∃ significand exponent, significand < 2 ^ 53 ∧ units = significand * 2 ^ exponent

theorem representable_pow (j : Nat) : Representable (2 ^ j) :=
  ⟨1, j, by decide, (Nat.one_mul _).symm⟩

theorem Representable.mul_pow (h : Representable units) (j : Nat) :
    Representable (units * 2 ^ j) := by
  obtain ⟨significand, exponent, fits, rfl⟩ := h
  exact ⟨significand, exponent + j, fits, by rw [Nat.pow_add, Nat.mul_assoc]⟩

/-- What a ratio is rounded to a multiple of. -/
def step (num den : Nat) : Nat := 2 ^ (bitLength (num / den) - 53)

theorem step_pos (num den : Nat) : 0 < step num den := Nat.two_pow_pos _

theorem roundUnits_eq (num den : Nat) :
    roundUnits num den = roundHalfEven num (den * step num den) * step num den := rfl

/-- A representable magnitude is a multiple of its step. -/
theorem Representable.exists_mul_step (h : Representable units) (positive : 0 < den) :
    ∃ n, units = n * step (units * den) den := by
  obtain ⟨significand, exponent, fits, rfl⟩ := h
  unfold step
  rw [Nat.mul_div_cancel _ positive]
  have short : bitLength (significand * 2 ^ exponent) ≤ 53 + exponent := by
    rw [bitLength_le_iff, Nat.pow_add]
    exact Nat.mul_lt_mul_of_pos_right fits (Nat.two_pow_pos _)
  obtain ⟨n, split⟩ : 2 ^ (bitLength (significand * 2 ^ exponent) - 53) ∣ 2 ^ exponent :=
    Nat.pow_dvd_pow 2 (by omega)
  refine ⟨significand * n, ?_⟩
  rw [Nat.mul_assoc, Nat.mul_comm n, ← split]

/-- **A representable magnitude is not changed.** -/
theorem roundUnits_of_representable (h : Representable units) (positive : 0 < den) :
    roundUnits (units * den) den = units := by
  obtain ⟨n, multiple⟩ := h.exists_mul_step positive
  have some_ := step_pos (units * den) den
  rw [roundUnits_eq]
  generalize step (units * den) den = size at multiple some_ ⊢
  subst multiple
  have whole : n * size * den = n * (den * size) := by ring
  rw [whole, roundHalfEven_mul n (Nat.mul_pos positive some_)]

/-- A power of two below the ratio stays below it. -/
theorem pow_le_roundUnits (positive : 0 < den) (h : 2 ^ j * den ≤ num) :
    2 ^ j ≤ roundUnits num den := by
  have some_ : 0 < den * step num den := Nat.mul_pos positive (step_pos num den)
  have quotient : 2 ^ j ≤ num / den := (Nat.le_div_iff_mul_le positive).2 h
  rw [roundUnits_eq]
  by_cases small : bitLength (num / den) - 53 ≤ j
  · obtain ⟨n, split⟩ : step num den ∣ 2 ^ j := Nat.pow_dvd_pow 2 small
    have multiple : n * (den * step num den) ≤ num := by
      calc n * (den * step num den) = 2 ^ j * den := by rw [split]; ring
        _ ≤ num := h
    have rounded := le_roundHalfEven some_ multiple
    calc 2 ^ j = n * step num den := by rw [split]; ring
      _ ≤ _ := Nat.mul_le_mul_right _ rounded
  · -- The step is larger than the power, but the ratio is no smaller than the step.
    have large : step num den ≤ num / den := by
      rw [← Nat.not_lt]
      intro less
      have digits := bitLength_le_iff.2 less
      omega
    have one : 1 ≤ roundHalfEven num (den * step num den) := by
      refine le_roundHalfEven some_ ?_
      rw [Nat.one_mul, Nat.mul_comm]
      exact (Nat.le_div_iff_mul_le positive).1 large
    calc 2 ^ j ≤ 1 * step num den := by
          rw [Nat.one_mul]
          exact Nat.pow_le_pow_right (by decide) (by omega)
      _ ≤ _ := Nat.mul_le_mul_right _ one

/-- A power of two above the ratio stays above it. -/
theorem roundUnits_le_pow (positive : 0 < den) (h : num ≤ 2 ^ j * den) :
    roundUnits num den ≤ 2 ^ j := by
  have some_ : 0 < den * step num den := Nat.mul_pos positive (step_pos num den)
  have digits : bitLength (num / den) ≤ j + 1 := by
    rw [bitLength_le_iff, Nat.pow_succ]
    have quotient : num / den ≤ 2 ^ j := Nat.div_le_of_le_mul (Nat.mul_comm _ _ ▸ h)
    have some_ := Nat.two_pow_pos j
    omega
  rw [roundUnits_eq]
  obtain ⟨n, split⟩ : step num den ∣ 2 ^ j := Nat.pow_dvd_pow 2 (by omega)
  have multiple : num ≤ n * (den * step num den) := by
    calc num ≤ 2 ^ j * den := h
      _ = n * (den * step num den) := by rw [split]; ring
  calc _ ≤ n * step num den := Nat.mul_le_mul_right _ (roundHalfEven_le_of_le some_ multiple)
    _ = 2 ^ j := by rw [split]; ring

/-- **Rounding keeps the order**, also between ratios that are rounded to different steps. -/
theorem roundUnits_mono (positive : 0 < den) (h : num ≤ more) :
    roundUnits num den ≤ roundUnits more den := by
  have quotients : num / den ≤ more / den := Nat.div_le_div_right h
  have lengths : bitLength (num / den) ≤ bitLength (more / den) := by
    rw [bitLength_le_iff]
    exact Nat.lt_of_le_of_lt quotients (bitLength_le_iff.1 (Nat.le_refl _))
  rcases Nat.lt_or_eq_of_le lengths with less | same
  · -- A power of two lies between the two ratios.
    obtain ⟨j, hj⟩ : ∃ j, bitLength (num / den) = j := ⟨_, rfl⟩
    have below : num ≤ 2 ^ j * den := by
      have short := bitLength_le_iff.1 hj.le
      exact (Nat.div_lt_iff_lt_mul positive).1 short |>.le
    have above : 2 ^ j * den ≤ more := by
      rw [← Nat.le_div_iff_mul_le positive, ← Nat.not_lt, ← bitLength_le_iff]
      omega
    exact (roundUnits_le_pow positive below).trans (pow_le_roundUnits positive above)
  · have steps : step num den = step more den := by rw [step, same, step]
    rw [roundUnits_eq, roundUnits_eq, steps]
    exact Nat.mul_le_mul_right _ (roundHalfEven_mono h)

/-- A representable magnitude below the ratio stays below it. -/
theorem le_roundUnits (h : Representable units) (positive : 0 < den) (le : units * den ≤ num) :
    units ≤ roundUnits num den := by
  rw [← roundUnits_of_representable h positive]
  exact roundUnits_mono positive le

/-- A representable magnitude above the ratio stays above it. -/
theorem roundUnits_le (h : Representable units) (positive : 0 < den) (le : num ≤ units * den) :
    roundUnits num den ≤ units := by
  rw [← roundUnits_of_representable h positive]
  exact roundUnits_mono positive le

/-- **What is rounded is representable.** -/
theorem representable_roundUnits (num : Nat) (positive : 0 < den) :
    Representable (roundUnits num den) := by
  have digits : num / den < 2 ^ 53 * step num den := by
    unfold step
    rw [← Nat.pow_add]
    exact bitLength_le_iff.1 (by omega)
  have short : roundHalfEven num (den * step num den) ≤ 2 ^ 53 := by
    refine roundHalfEven_le_of_le (Nat.mul_pos positive (step_pos num den)) ?_
    calc num ≤ 2 ^ 53 * step num den * den := ((Nat.div_lt_iff_lt_mul positive).1 digits).le
      _ = 2 ^ 53 * (den * step num den) := by ring
  rw [roundUnits_eq]
  rcases Nat.lt_or_eq_of_le short with less | carried
  · exact ⟨_, _, less, rfl⟩
  · rw [carried, step, ← Nat.pow_add]
    exact representable_pow _

/-! ## Powers of two -/

theorem scale_eq : scale = 2 ^ 1074 := by decide +kernel

theorem limit_eq : limit = 2 ^ 1024 * scale := by decide +kernel

theorem scale_pos : 0 < scale := by decide +kernel

theorem representable_scale : Representable scale := scale_eq ▸ representable_pow 1074

theorem Representable.mul_scale (h : Representable units) : Representable (units * scale) := by
  rw [scale_eq]
  exact h.mul_pow 1074

/-- One is a multiple of each small enough power of two of the smallest unit. -/
theorem exists_scale (h : j ≤ 1074) : ∃ e, scale = 2 ^ e * 2 ^ j :=
  ⟨1074 - j, by rw [scale_eq, ← Nat.pow_add, Nat.sub_add_cancel h]⟩

theorem scale_lt_limit : scale < limit := by decide +kernel

theorem ofUnits_of_lt (h : roundUnits num den < limit) :
    ofUnits false num den = .finite false (roundUnits num den) := by
  simp only [ofUnits, h, if_true]

theorem ofUnits_of_not_lt (h : ¬roundUnits num den < limit) :
    ofUnits false num den = .infinite false := by
  simp only [ofUnits, h, if_false]

theorem ofUnits_cases (num den : Nat) : ofUnits false num den = .infinite false ∨
    ofUnits false num den = .finite false (roundUnits num den) := by
  by_cases h : roundUnits num den < limit
  · exact .inr (ofUnits_of_lt h)
  · exact .inl (ofUnits_of_not_lt h)

/-- A representable magnitude that is not too large is a double itself. -/
theorem ofUnits_of_representable (h : Representable units) (positive : 0 < den) :
    ofUnits false (units * den) den =
      if units < limit then .finite false units else .infinite false := by
  unfold ofUnits
  rw [roundUnits_of_representable h positive]

theorem add_finite (x y : Nat) :
    (finite false x).add (.finite false y) = ofUnits false (x + y) 1 := by
  simp only [add, if_true]

theorem infinite_add (y : Nat) : (infinite false).add (.finite false y) = .infinite false := rfl

/-- Natural numbers with a significand of 53 digits are doubles. -/
theorem ofNat_of_lt {n : Nat} (h : n < 2 ^ 53) : ofNat n = .finite false (n * scale) := by
  have representable : Representable n := ⟨n, 0, h, (Nat.mul_one n).symm⟩
  have fits : n * scale < limit := by
    rw [limit_eq, Nat.mul_lt_mul_right scale_pos]
    exact h.trans (by decide +kernel)
  rw [ofNat, ← Nat.mul_one (n * scale),
    ofUnits_of_representable representable.mul_scale Nat.one_pos, Nat.mul_one, if_pos fits]

/-- A power of two, infinite from the first one on that is too large. -/
def twoPower (j : Nat) : Double :=
  if j < 1024 then .finite false (2 ^ j * scale) else .infinite false

theorem ofUnits_pow (j : Nat) (positive : 0 < den) :
    ofUnits false (2 ^ j * scale * den) den = twoPower j := by
  have fits : 2 ^ j * scale < limit ↔ j < 1024 := by
    rw [limit_eq, Nat.mul_lt_mul_right scale_pos, Nat.pow_lt_pow_iff_right (by decide)]
  rw [ofUnits_of_representable (representable_pow j).mul_scale positive]
  simp only [fits, twoPower]

theorem one_eq : one = .finite false scale := by
  rw [one, ofNat_of_lt (by decide), Nat.one_mul]

theorem twoPower_zero : twoPower 0 = one := by
  rw [one_eq, twoPower, if_pos (by decide), Nat.pow_zero, Nat.one_mul]

theorem twoPower_one : twoPower 1 = ofNat 2 := by
  rw [ofNat_of_lt (by decide), twoPower, if_pos (by decide), Nat.pow_one]

theorem mul_finite (x y : Nat) :
    (finite false x).mul (.finite false y) = ofUnits false (x * y) scale := rfl

/-- Powers of two are multiplied exactly. -/
theorem mul_twoPower (i j : Nat) : (twoPower i).mul (twoPower j) = twoPower (i + j) := by
  have product : 2 ^ i * scale * (2 ^ j * scale) = 2 ^ (i + j) * scale * scale := by
    rw [Nat.pow_add]
    ring
  have some_ : scale ≠ 0 := scale_pos.ne'
  by_cases left : i < 1024 <;> by_cases right : j < 1024
  · rw [← ofUnits_pow (i + j) scale_pos, ← product]
    rw [twoPower, if_pos left, twoPower, if_pos right, mul_finite]
  · have both : ¬i + j < 1024 := by omega
    simp [twoPower, left, right, both, mul, some_]
  · have both : ¬i + j < 1024 := by omega
    simp [twoPower, left, right, both, mul, some_]
  · have both : ¬i + j < 1024 := by omega
    simp [twoPower, left, right, both, mul]

/-- The squares that are gathered are those of the binary digits. -/
theorem powerLoop_twoPower (fuel : Nat) : ∀ i j n, n < 2 ^ fuel →
    powerLoop fuel (twoPower j) n (twoPower i) = twoPower (i + j * n) := by
  induction fuel with
  | zero =>
    intro i j n small
    obtain rfl : n = 0 := by omega
    rfl
  | succ fuel ih =>
    intro i j n small
    have halves := Nat.div_add_mod n 2
    have gathered : (if n % 2 = 1 then (twoPower i).mul (twoPower j) else twoPower i) =
        twoPower (i + j * (n % 2)) := by
      rcases Nat.mod_two_eq_zero_or_one n with even | odd
      · simp [even]
      · rw [if_pos odd, mul_twoPower, odd, Nat.mul_one]
    rw [powerLoop, gathered]
    split
    · rename_i last
      have whole : n % 2 = n := by omega
      rw [whole]
    · rw [mul_twoPower, ih _ _ _ (by rw [Nat.pow_succ] at small; omega)]
      congr 1
      conv_rhs => rw [← halves]
      ring

/-- **Whole powers of two are exact**, or infinite. -/
theorem power_two (j : Nat) : (ofNat 2).power j = twoPower j := by
  show powerLoop (j.log2 + 1) (ofNat 2) j one = _
  rw [← twoPower_one, ← twoPower_zero, powerLoop_twoPower _ _ _ _ Nat.lt_log2_self, Nat.one_mul,
    Nat.zero_add]

/-- A product with a power of two is exact, or infinite. -/
theorem twoPower_mul (h : Representable units) (some_ : units ≠ 0) (j : Nat) :
    (twoPower j).mul (.finite false units) =
      if j < 1024 ∧ units * 2 ^ j < limit then .finite false (units * 2 ^ j)
      else .infinite false := by
  by_cases small : j < 1024
  · have product : 2 ^ j * scale * units = units * 2 ^ j * scale := by ring
    rw [twoPower, if_pos small, mul_finite, product,
      ofUnits_of_representable (h.mul_pow j) scale_pos]
    simp [small]
  · simp [twoPower, small, mul, some_]

/-! ## Negative powers -/

/-- The reciprocal of a power of two, nothing from the first one on that is infinite. -/
def twoPart (j : Nat) : Nat := if j < 1024 then scale / 2 ^ j else 0

/-- A negative power is no more than one. -/
theorem twoPart_le (j : Nat) : twoPart j ≤ scale := by
  unfold twoPart
  split
  · exact Nat.div_le_self _ _
  · exact Nat.zero_le _

theorem div_finite (x : Nat) {y : Nat} (h : y ≠ 0) :
    (finite false x).div (.finite false y) = ofUnits false (x * scale) y := if_neg h

theorem one_div_twoPower (j : Nat) : one.div (twoPower j) = .finite false (twoPart j) := by
  rw [one_eq]
  by_cases small : j < 1024
  · obtain ⟨e, split⟩ := exists_scale (small.le.trans (by decide))
    have part : twoPart j = 2 ^ e := by
      rw [twoPart, if_pos small, split, Nat.mul_div_cancel _ (Nat.two_pow_pos j)]
    have some_ : 0 < 2 ^ j * scale := Nat.mul_pos (Nat.two_pow_pos j) scale_pos
    have whole : scale * scale = twoPart j * (2 ^ j * scale) := by
      rw [part, ← Nat.mul_assoc, ← split]
    have fits : twoPart j < limit := (twoPart_le j).trans_lt scale_lt_limit
    rw [twoPower, if_pos small, div_finite _ some_.ne', whole,
      ofUnits_of_representable (part ▸ representable_pow e) some_, if_pos fits]
  · rw [twoPower, if_neg small, twoPart, if_neg small]
    rfl

/-- **A negative power of two** is the part that the positive one is of. -/
theorem power_neg_two (j : Nat) :
    (ofNat 2).power (.negSucc j) = .finite false (twoPart (j + 1)) := by
  show one.div ((ofNat 2).power ((j + 1 : Nat) : Int)) = _
  rw [power_two, one_div_twoPower]

end CloudLifecycle.Double

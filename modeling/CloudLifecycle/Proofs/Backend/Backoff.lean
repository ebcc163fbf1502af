import CloudLifecycle.Proofs.Backend.Budgets
import CloudLifecycle.Proofs.Number.Rounding

/-!
# Pauses that grow without end

With the multiplier two, the pause before a repetition is the initial delay times an exact power of
two, cut to the longest delay (`RetryPolicy.delay?_eq_some_iff`).  It is cut only after it was
computed, and there is no pause where the product does not fit a duration, however short the longest
delay is (`RetryPolicy.isSome_delay?_iff`).  This comes after fewer than a hundred pauses
(`RetryPolicy.Fits.lt`), and then the call is given up in the middle, without an answer
(`Retry.Service.run_call_limited`).
-/

set_option autoImplicit false

namespace CloudLifecycle

open Double (scale Representable)

namespace Duration

variable {d : Duration}

/-- The part of a duration beyond the whole seconds is a finite number of seconds.  Unless it is
zero, it is not below `2⁻³⁰`, which is just less than a nanosecond. -/
theorem exists_fraction (d : Duration) : ∃ units,
    (Double.ofNat d.subsecond).div (Double.ofNat perSecond) = .finite false units ∧
      (0 < d.subsecond → scale ≤ units * 2 ^ 30) := by
  have below : d.subsecond < perSecond := Nat.mod_lt _ (by decide)
  have second : perSecond < 2 ^ 30 := by decide
  have some_ : 0 < perSecond * scale := Nat.mul_pos (by decide) Double.scale_pos
  have quotient : (Double.ofNat d.subsecond).div (Double.ofNat perSecond) =
      .ofUnits false (d.subsecond * scale * scale) (perSecond * scale) := by
    rw [Double.ofNat_of_lt (below.trans (by decide)), Double.ofNat_of_lt (by decide),
      Double.div_finite _ some_.ne']
  have most : Double.roundUnits (d.subsecond * scale * scale) (perSecond * scale) ≤ scale := by
    refine Double.roundUnits_le Double.representable_scale some_ ?_
    calc d.subsecond * scale * scale ≤ perSecond * scale * scale :=
          Nat.mul_le_mul_right _ (Nat.mul_le_mul_right _ below.le)
      _ = scale * (perSecond * scale) := Nat.mul_comm _ _
  have fits : Double.roundUnits (d.subsecond * scale * scale) (perSecond * scale) < Double.limit :=
    most.trans_lt Double.scale_lt_limit
  refine ⟨_, quotient.trans (Double.ofUnits_of_lt fits), fun beyond => ?_⟩
  obtain ⟨e, split⟩ : ∃ e, scale = 2 ^ e * 2 ^ 30 := Double.exists_scale (by decide)
  have least : 2 ^ e ≤ Double.roundUnits (d.subsecond * scale * scale) (perSecond * scale) := by
    refine Double.pow_le_roundUnits some_ ?_
    calc 2 ^ e * (perSecond * scale) ≤ 2 ^ e * (2 ^ 30 * scale) :=
          Nat.mul_le_mul_left _ (Nat.mul_le_mul_right _ second.le)
      _ = 1 * scale * scale := by rw [← Nat.mul_assoc, ← split, Nat.one_mul]
      _ ≤ d.subsecond * scale * scale :=
          Nat.mul_le_mul_right _ (Nat.mul_le_mul_right _ beyond)
  calc scale = 2 ^ e * 2 ^ 30 := split
    _ ≤ _ := Nat.mul_le_mul_right _ least

/-- **The seconds of a duration as a double** are infinitely many, or they are representable and,
unless the duration is zero, not below `2⁻³⁰`. -/
theorem toDouble_cases (d : Duration) : d.toDouble = .infinite false ∨
    ∃ units, d.toDouble = .finite false units ∧ Representable units ∧
      (0 < d.nanos → scale ≤ units * 2 ^ 30) := by
  obtain ⟨fraction, beyond, some_⟩ := exists_fraction d
  obtain ⟨e, split⟩ : ∃ e, scale = 2 ^ e * 2 ^ 30 := Double.exists_scale (by decide)
  rw [toDouble, beyond]
  rcases Double.ofUnits_cases (d.seconds * scale) 1 with infinite | finite
  · left
    rw [Double.ofNat, infinite, Double.infinite_add]
  let whole := Double.roundUnits (d.seconds * scale) 1
  rw [Double.ofNat, finite, Double.add_finite]
  rcases Double.ofUnits_cases (whole + fraction) 1 with infinite | finite
  · exact .inl infinite
  refine .inr ⟨_, finite, Double.representable_roundUnits _ Nat.one_pos, fun positive => ?_⟩
  have least : 2 ^ e ≤ whole + fraction := by
    by_cases second : d.seconds = 0
    · have nanos := Nat.div_add_mod d.nanos perSecond
      have fine : scale ≤ fraction * 2 ^ 30 := some_ (by
        have none : d.nanos / perSecond = 0 := second
        have rest : d.subsecond = d.nanos % perSecond := rfl
        rw [none] at nanos
        omega)
      rw [split] at fine
      omega
    · have coarse : scale ≤ whole := by
        refine Double.le_roundUnits Double.representable_scale Nat.one_pos ?_
        rw [Nat.mul_one]
        exact Nat.le_mul_of_pos_left _ (Nat.pos_of_ne_zero second)
      omega
  calc scale = 2 ^ e * 2 ^ 30 := split
    _ ≤ _ := Nat.mul_le_mul_right _ (Double.le_roundUnits (Double.representable_pow e) Nat.one_pos
        (by rwa [Nat.mul_one]))

theorem of_toDouble {units : Nat} (seconds : d.toDouble = .finite false units) :
    Representable units ∧ (0 < d.nanos → scale ≤ units * 2 ^ 30) := by
  rcases d.toDouble_cases with infinite | ⟨_, same, fine, large⟩
  · rw [infinite] at seconds
    cases seconds
  · obtain ⟨-, rfl⟩ := Double.finite.inj (seconds.symm.trans same)
    exact ⟨fine, large⟩

/-- No large multiple of `2⁻³⁰` seconds fits a duration. -/
theorem lt_of_fits {units j : Nat} (large : scale ≤ units * 2 ^ 30)
    (fits : units * 2 ^ j < 0x10000000000000000 * scale) : j < 94 := by
  have bounds : 2 ^ j * scale < 2 ^ 94 * scale := by
    calc 2 ^ j * scale ≤ 2 ^ j * (units * 2 ^ 30) := Nat.mul_le_mul_left _ large
      _ = units * 2 ^ j * 2 ^ 30 := by ring
      _ < 0x10000000000000000 * scale * 2 ^ 30 :=
        Nat.mul_lt_mul_of_pos_right fits (Nat.two_pow_pos 30)
      _ = 2 ^ 94 * scale := by ring
  rwa [Nat.mul_lt_mul_right Double.scale_pos, Nat.pow_lt_pow_iff_right (by decide)] at bounds

/-- The duration that is nearest to a number of seconds. -/
def nearest (units : Nat) : Duration := ⟨Double.roundHalfEven (units * perSecond) scale⟩

theorem nearest_mono {units more : Nat} (h : units ≤ more) : nearest units ≤ nearest more := by
  have longer : units * perSecond ≤ more * perSecond := Nat.mul_le_mul_right _ h
  simp only [le_iff, nearest]
  exact Double.roundHalfEven_mono longer

theorem min_le_min {a b : Duration} (h : a ≤ b) (c : Duration) : min a c ≤ min b c := by
  rw [le_iff] at h ⊢
  rw [min_nanos, min_nanos]
  omega

theorem min_le (a b : Duration) : min a b ≤ b := by
  rw [le_iff, min_nanos]
  omega

theorem ofDouble?_finite (units : Nat) : ofDouble? (.finite false units) =
    if units < 0x10000000000000000 * scale then some (nearest units) else none := by
  simp only [ofDouble?, Bool.false_and, Bool.false_eq_true, if_false, nearest]

/-- **A duration times a power of two** is the nearest duration to the exact product, if that
fits. -/
theorem timesDouble?_twoPower {units : Nat} (seconds : d.toDouble = .finite false units)
    (positive : 0 < d.nanos) (j : Nat) :
    d.timesDouble? (.twoPower j) =
      if units * 2 ^ j < 0x10000000000000000 * scale then some (nearest (units * 2 ^ j))
      else none := by
  obtain ⟨representable, bounds⟩ := of_toDouble seconds
  have large := bounds positive
  have some_ : units ≠ 0 := by
    rintro rfl
    rw [Nat.zero_mul] at large
    exact absurd Double.scale_pos (Nat.not_lt.2 large)
  rw [timesDouble?, seconds, Double.twoPower_mul representable some_ j]
  by_cases fits : units * 2 ^ j < 0x10000000000000000 * scale
  · have small : j < 1024 := (lt_of_fits large fits).trans (by decide)
    have finite : units * 2 ^ j < Double.limit := fits.trans (by decide +kernel)
    rw [if_pos ⟨small, finite⟩, ofDouble?_finite]
  · rw [if_neg fits]
    split
    · rw [ofDouble?_finite, if_neg fits]
    · rfl

theorem timesDouble?_of_infinite (seconds : d.toDouble = .infinite false) (j : Nat) :
    d.timesDouble? (.twoPower j) = none := by
  rw [timesDouble?, seconds, Double.twoPower]
  split
  · have some_ : 2 ^ j * scale ≠ 0 := (Nat.mul_pos (Nat.two_pow_pos j) Double.scale_pos).ne'
    simp only [Double.mul, some_, if_false]
    rfl
  · rfl

/-- A duration times no more than one is a duration if it is one itself, and no longer. -/
theorem exists_timesDouble? {units part : Nat} (seconds : d.toDouble = .finite false units)
    (fits : units < 0x10000000000000000 * scale) (least : part ≤ scale) :
    ∃ shorter, d.timesDouble? (.finite false part) = some shorter ∧ shorter ≤ nearest units := by
  obtain ⟨representable, -⟩ := of_toDouble seconds
  have less : Double.roundUnits (part * units) scale ≤ units := by
    refine Double.roundUnits_le representable Double.scale_pos ?_
    rw [Nat.mul_comm units]
    exact Nat.mul_le_mul_right _ least
  have bounded := less.trans_lt fits
  have finite : Double.roundUnits (part * units) scale < Double.limit :=
    bounded.trans (by decide +kernel)
  rw [timesDouble?, seconds, Double.mul_finite, Double.ofUnits_of_lt finite, ofDouble?_finite,
    if_pos bounded]
  exact ⟨_, rfl, nearest_mono less⟩

end Duration

namespace RetryPolicy

variable {policy : RetryPolicy} {attempt earlier : Nat} {pause : Duration}

/-- The seconds of the initial delay times a power of two fit sixty-four bits. -/
def Fits (policy : RetryPolicy) (attempt : Nat) : Prop :=
  ∃ units, policy.initialDelay.toDouble = .finite false units ∧
    units * 2 ^ attempt < 0x10000000000000000 * scale

theorem Fits.mono (h : policy.Fits attempt) (le : earlier ≤ attempt) : policy.Fits earlier := by
  obtain ⟨units, seconds, fits⟩ := h
  have less : 2 ^ earlier ≤ 2 ^ attempt := Nat.pow_le_pow_right (by decide) le
  exact ⟨units, seconds, (Nat.mul_le_mul_left _ less).trans_lt fits⟩

theorem signed32_of_lt (h : attempt < 2 ^ 31) : signed32 attempt = attempt :=
  Int.bmod_eq_of_le_mul_two (by omega) (by omega)

/-- From the first number on that is no signed one the numbers are read as negative. -/
theorem signed32_of_le {n : Nat} (rest : attempt + n = 0xFFFFFFFF) (h : 2 ^ 31 ≤ attempt) :
    signed32 attempt = .negSucc n := by
  have wrapped : (attempt : Int) = -(n + 1 : Int) + 0x100000000 := by omega
  have signed : (-(n + 1 : Int)).bmod 0x100000000 = -(n + 1 : Int) :=
    Int.bmod_eq_of_le_mul_two (by omega) (by omega)
  have turned : (-(n + 1 : Int) + 0x100000000).bmod 0x100000000 =
      (-(n + 1 : Int)).bmod 0x100000000 := Int.add_bmod_right _ _
  unfold signed32
  rw [wrapped, turned, signed, Int.negSucc_eq]

/-- A pause is no longer than the longest delay. -/
theorem delay?_le (found : policy.delay? attempt = some pause) : pause ≤ policy.maxDelay := by
  obtain ⟨product, -, rfl⟩ := Option.map_eq_some_iff.1 found
  exact Duration.min_le _ _

/-- Doubling a delay over and over ends before the hundredth time. -/
theorem Fits.lt (fits : policy.Fits attempt) (positive : 0 < policy.initialDelay.nanos) :
    attempt < 94 := by
  obtain ⟨units, seconds, fits⟩ := fits
  exact Duration.lt_of_fits ((Duration.of_toDouble seconds).2 positive) fits

section Doubled

variable (doubles : policy.multiplier = .ofNat 2) (positive : 0 < policy.initialDelay.nanos)

include doubles positive

/-- **What a doubled pause is**: the nearest duration to the initial delay times the power, cut to
the longest delay, and it is there if that multiple fits. -/
theorem delay?_eq_some_iff (h : attempt < 2 ^ 31) :
    policy.delay? attempt = some pause ↔
      ∃ units, policy.initialDelay.toDouble = .finite false units ∧
        units * 2 ^ attempt < 0x10000000000000000 * scale ∧
        min (Duration.nearest (units * 2 ^ attempt)) policy.maxDelay = pause := by
  rw [delay?, doubles, signed32_of_lt h, Double.power_two]
  rcases policy.initialDelay.toDouble_cases with infinite | ⟨units, seconds, -⟩
  · rw [Duration.timesDouble?_of_infinite infinite, infinite]
    simp
  · rw [Duration.timesDouble?_twoPower seconds positive, seconds]
    constructor
    · intro found
      by_cases fits : units * 2 ^ attempt < 0x10000000000000000 * scale
      · rw [if_pos fits] at found
        exact ⟨units, rfl, fits, Option.some.inj found⟩
      · rw [if_neg fits] at found
        cases found
    · rintro ⟨_, same, fits, rfl⟩
      obtain ⟨-, rfl⟩ := Double.finite.inj same
      rw [if_pos fits]
      rfl

/-- There is a pause exactly if the multiple of the initial delay fits. -/
theorem isSome_delay?_iff (h : attempt < 2 ^ 31) :
    (policy.delay? attempt).isSome = true ↔ policy.Fits attempt := by
  simp only [Option.isSome_iff_exists, delay?_eq_some_iff doubles positive h, Fits]
  constructor
  · rintro ⟨_, units, seconds, fits, -⟩
    exact ⟨units, seconds, fits⟩
  · rintro ⟨units, seconds, fits⟩
    exact ⟨_, units, seconds, fits, rfl⟩

/-- Every earlier pause is there as well, and it is no longer. -/
theorem delay?_mono (h : attempt < 2 ^ 31) (found : policy.delay? attempt = some pause)
    (le : earlier ≤ attempt) :
    ∃ before, policy.delay? earlier = some before ∧ before ≤ pause := by
  obtain ⟨units, seconds, fits, rfl⟩ := (delay?_eq_some_iff doubles positive h).1 found
  have less : units * 2 ^ earlier ≤ units * 2 ^ attempt :=
    Nat.mul_le_mul_left _ (Nat.pow_le_pow_right (by decide) le)
  refine ⟨_, (delay?_eq_some_iff doubles positive (Nat.lt_of_le_of_lt le h)).2
    ⟨units, seconds, less.trans_lt fits, rfl⟩, ?_⟩
  exact Duration.min_le_min (Duration.nearest_mono less) _

/-- Where the numbers are read as negative, the pauses are no longer than the first one. -/
theorem exists_delay?_of_le (h : 2 ^ 31 ≤ attempt) (word : attempt < 2 ^ 32)
    (found : policy.delay? 0 = some pause) :
    ∃ later, policy.delay? attempt = some later ∧ later ≤ pause := by
  obtain ⟨units, seconds, fits, rfl⟩ := (delay?_eq_some_iff doubles positive (by decide)).1 found
  rw [Nat.pow_zero, Nat.mul_one] at fits ⊢
  obtain ⟨n, rest⟩ : ∃ n, attempt + n = 0xFFFFFFFF := ⟨0xFFFFFFFF - attempt, by omega⟩
  obtain ⟨shorter, product, less⟩ :=
    Duration.exists_timesDouble? seconds fits (Double.twoPart_le (n + 1))
  rw [delay?, doubles, signed32_of_le rest h, Double.power_neg_two, product]
  exact ⟨_, rfl, Duration.min_le_min less _⟩

end Doubled

end RetryPolicy

/-! ## Calls that are limited again and again -/

namespace Retry

variable {α : Type}

/-- The pause that a limit asks for. -/
def asked? : ProviderResult α → Option Duration
  | .error (.rateLimited _ retryAfter) => retryAfter
  | _ => none

/-- There is a pause after the limit number `j`: the backend asked for one, or the policy has it. -/
def Paused (policy : RetryPolicy) (answers : Nat → ProviderResult α) (j : Nat) : Prop :=
  (asked? (answers j)).isSome = true ∨ (policy.delay? j).isSome = true

theorem paused_iff {policy : RetryPolicy} {answers : Nat → ProviderResult α} {j : Nat} :
    Paused policy answers j ↔
      ((asked? (answers j)).orElse fun _ => policy.delay? j).isSome = true := by
  rw [Option.orElse_eq_or, Option.isSome_or, Bool.or_eq_true, Paused]

namespace Service

variable {attempt : Task (ProviderResult α)} {answers : Nat → ProviderResult α}
  {refresh : ProviderResult Unit} {ω : Type} {service : Service attempt answers refresh ω}
  {policy : RetryPolicy} {onUnauthorized : Nat → String → Task (ProviderResult α)}

/-- An attempt that is limited leads to what is done about the limit. -/
theorem run_react_limited {state : ω} {text : String} {retryAfter : Option Duration}
    (limited : answers (service.made state) = .error (.rateLimited text retryAfter))
    {onUnauthorized : String → Task (ProviderResult α)}
    {onLimited : String → Option Duration → Task (ProviderResult α)} :
    service.run (react attempt onUnauthorized onLimited) state =
      service.run (onLimited text retryAfter) (service.attempted state) := by
  have ran := service.run_attempt state
  rw [limited] at ran
  exact (Surroundings.Leads.of_run ran).bind.run

/-- Without a pause there is no going on. -/
theorem run_pauseFor_none (rest : Task (ProviderResult α)) (state : ω) :
    (service.run (pauseFor none >>= fun _ => rest) state).1 = none := by
  rcases answered : service.answer .abort state with ⟨_ | impossible, later⟩
  · exact congrArg Prod.fst (Surroundings.run_unanswered answered)
  · exact impossible.elim

theorem run_pauseFor_some (span : Duration) (rest : Task (ProviderResult α)) (state : ω) :
    service.run (pauseFor (some span) >>= fun _ => rest) state =
      service.run rest (service.paused span state) :=
  (Surroundings.Leads.ask (service.answer_sleep span state)).run

variable (service policy onUnauthorized) in
/-- **A call that is limited in every attempt** makes them all if there is a pause after each but
the last, and else it is given up. -/
theorem run_attempts_limited (limited : ∀ i, isRateLimited (answers i) = true) (left : Nat) :
    ∀ state, service.made state + left = policy.maxAttempts - 1 →
      ((∀ j, service.made state ≤ j → j < service.made state + left → Paused policy answers j) →
        (service.run (attempts policy attempt onUnauthorized left) state).1 =
          some (answers (service.made state + left))) ∧
      ((∃ j, service.made state ≤ j ∧ j < service.made state + left ∧ ¬Paused policy answers j) →
        (service.run (attempts policy attempt onUnauthorized left) state).1 = none) := by
  induction left with
  | zero =>
    intro state _
    obtain ⟨text, retryAfter, refused⟩ := exists_of_isRateLimited (limited (service.made state))
    refine ⟨fun _ => ?_, fun ⟨j, least, less, _⟩ => absurd less (Nat.not_lt.2 least)⟩
    rw [attempts, run_react_limited refused, Nat.add_zero, refused]
    rfl
  | succ left ih =>
    intro state whole
    obtain ⟨text, retryAfter, refused⟩ := exists_of_isRateLimited (limited (service.made state))
    have number : policy.maxAttempts - 2 - left = service.made state := by omega
    have asked : asked? (answers (service.made state)) = retryAfter := by rw [refused, asked?]
    rw [attempts, run_react_limited refused, pause, number]
    cases found : retryAfter.orElse fun _ => policy.delay? (service.made state) with
    | none =>
      have stuck : ¬Paused policy answers (service.made state) := by
        rw [paused_iff, asked, found]
        exact Bool.false_ne_true
      exact ⟨fun paused => absurd (paused _ (Nat.le_refl _) (by omega)) stuck,
        fun _ => run_pauseFor_none _ _⟩
    | some span =>
      have paused : Paused policy answers (service.made state) := by
        rw [paused_iff, asked, found]
        rfl
      let next := service.paused (min span policy.maxDelay) (service.attempted state)
      have made : service.made next = service.made state + 1 :=
        (service.made_paused _ _).trans (service.made_attempted _)
      have total : service.made next + left = service.made state + (left + 1) := by omega
      obtain ⟨on, off⟩ := ih next (by omega)
      rw [total] at on off
      have resumed := service.run_pauseFor_some (min span policy.maxDelay)
        (attempts policy attempt onUnauthorized left) (service.attempted state)
      rw [Option.map_some, resumed]
      refine ⟨fun all => on fun j least => all j (by omega), fun ⟨j, least, less, stuck⟩ => ?_⟩
      refine off ⟨j, ?_, less, stuck⟩
      rcases Nat.lt_or_eq_of_le least with later | rfl
      · omega
      · exact absurd paused stuck

/-- With limits that ask for nothing, the pauses are those of the policy. -/
theorem paused_iff_of_unasked {j : Nat} (unasked : asked? (answers j) = none) :
    Paused policy answers j ↔ (policy.delay? j).isSome = true := by
  rw [paused_iff, unasked, Option.orElse_none]

/-- With limits that ask for nothing and doubled pauses, there are all pauses exactly if every
multiple of the initial delay fits. -/
theorem forall_paused_iff (doubles : policy.multiplier = .ofNat 2)
    (positive : 0 < policy.initialDelay.nanos) (unasked : ∀ i, asked? (answers i) = none) :
    (∀ j, j + 1 < policy.maxAttempts → Paused policy answers j) ↔
      ∀ j, j + 1 < policy.maxAttempts → policy.Fits j := by
  have early : ∀ {j}, j < 2 ^ 31 → (Paused policy answers j ↔ policy.Fits j) := fun less =>
    (paused_iff_of_unasked (unasked _)).trans
      (RetryPolicy.isSome_delay?_iff doubles positive less)
  constructor
  · intro paused j attempted
    -- A number so large comes after one that does not fit, and the call does not get there.
    have less : j < 2 ^ 31 := by
      by_contra late
      have fits : policy.Fits 94 := (early (by decide)).1 (paused 94 (by omega))
      exact absurd (fits.lt positive) (Nat.lt_irrefl 94)
    exact (early less).1 (paused j attempted)
  · intro fits j attempted
    have less : j < 2 ^ 31 := ((fits j attempted).lt positive).trans (by decide)
    exact (early less).2 (fits j attempted)

variable (service policy) in
/-- A call that only meets limits ends with the last one if there is a pause after each of the
others, and without an answer if not. -/
theorem run_call_limited (limited : ∀ i, isRateLimited (answers i) = true) {start : ω}
    (unused : service.made start = 0) :
    ((∀ j, j + 1 < policy.maxAttempts → Paused policy answers j) →
      (service.run (call policy attempt) start).1 = some (answers (policy.maxAttempts - 1))) ∧
    ((∃ j, j + 1 < policy.maxAttempts ∧ ¬Paused policy answers j) →
      (service.run (call policy attempt) start).1 = none) := by
  have whole : service.made start + (policy.maxAttempts - 1) = policy.maxAttempts - 1 := by omega
  obtain ⟨on, off⟩ := service.run_attempts_limited policy (renew policy attempt) limited
    (policy.maxAttempts - 1) start whole
  rw [whole] at on off
  constructor
  · intro paused
    exact on fun j _ less => paused j (by omega)
  · rintro ⟨j, attempted, stuck⟩
    exact off ⟨j, by omega, by omega, stuck⟩

end Service

end Retry

/-- **How far doubled pauses go.**  There is a pause as long as the multiple of the initial delay
fits, and it is no longer than the longest delay and no shorter than every earlier one; but this
ends before the hundredth.  A call that only meets limits ends with the last one if there is a pause
after each of the others, and is given up without an answer if not. -/
theorem RetryPolicy.doubled_pauses (policy : RetryPolicy) (doubles : policy.multiplier = .ofNat 2)
    (positive : 0 < policy.initialDelay.nanos) :
    (∀ k < 2 ^ 31, ((policy.delay? k).isSome = true ↔ policy.Fits k) ∧
      ∀ pause, policy.delay? k = some pause → pause ≤ policy.maxDelay ∧
        ∀ earlier ≤ k, ∃ before, policy.delay? earlier = some before ∧ before ≤ pause) ∧
    (∀ k, 2 ^ 31 ≤ k → k < 2 ^ 32 → ∀ first, policy.delay? 0 = some first →
      ∃ later, policy.delay? k = some later ∧ later ≤ first) ∧
    (∀ k, policy.Fits k → k < 94 ∧ ∀ earlier ≤ k, policy.Fits earlier) ∧
    ∀ (α ω : Type) (attempt : Task (ProviderResult α)) (answers : Nat → ProviderResult α)
      (refresh : ProviderResult Unit) (service : Retry.Service attempt answers refresh ω)
      (start : ω), service.made start = 0 →
      (∀ i, Retry.isRateLimited (answers i) = true) →
      ((∀ j, j + 1 < policy.maxAttempts → Retry.Paused policy answers j) →
        (service.run (Retry.call policy attempt) start).1 =
          some (answers (policy.maxAttempts - 1))) ∧
      ((∃ j, j + 1 < policy.maxAttempts ∧ ¬Retry.Paused policy answers j) →
        (service.run (Retry.call policy attempt) start).1 = none) ∧
      ((∀ i, Retry.asked? (answers i) = none) →
        ((∀ j, j + 1 < policy.maxAttempts → Retry.Paused policy answers j) ↔
          ∀ j, j + 1 < policy.maxAttempts → policy.Fits j)) := by
  refine ⟨fun k signed => ⟨isSome_delay?_iff doubles positive signed, ?pauses⟩, ?negative, ?few,
    ?calls⟩
  case pauses =>
    intro pause found
    exact ⟨delay?_le found, fun earlier le => delay?_mono doubles positive signed found le⟩
  case negative =>
    intro k least word first found
    exact exists_delay?_of_le doubles positive least word found
  case few =>
    intro k fits
    exact ⟨fits.lt positive, fun earlier le => fits.mono le⟩
  case calls =>
    intro α ω attempt answers refresh service start unused limited
    obtain ⟨on, off⟩ := service.run_call_limited policy limited unused
    exact ⟨on, off, Retry.Service.forall_paused_iff doubles positive⟩

/-- A restart that is limited in every attempt. -/
def Retry.Service.limiting : Retry.Service (Task.provider (.restartInstance ⟨"i-1"⟩))
    (fun _ => .error (.rateLimited "busy" none)) (.ok ()) Nat :=
  scripted (.restartInstance ⟨"i-1"⟩) (by simp) (fun _ => .error (.rateLimited "busy" none))
    (.ok ())

/-- The usual policy makes all of its three attempts. -/
theorem RetryPolicy.doubled_pauses_standard :
    standard.multiplier = .ofNat 2 ∧ 0 < standard.initialDelay.nanos ∧ standard.Fits 1 ∧
    (Retry.Service.limiting.run
      (Retry.call standard (Task.provider (.restartInstance ⟨"i-1"⟩))) 0).1 =
        some (.error (.rateLimited "busy" none)) := by
  have doubles : standard.multiplier = .ofNat 2 := by decide +kernel
  have positive : 0 < standard.initialDelay.nanos := by decide
  obtain ⟨pauses, -, few, calls⟩ := doubled_pauses standard doubles positive
  have second : standard.Fits 1 := (pauses 1 (by decide)).1.1 (by decide +kernel)
  obtain ⟨on, -, unasked⟩ := calls _ _ _ _ _ Retry.Service.limiting 0 rfl fun _ => rfl
  have paused := (unasked fun _ => rfl).2 fun j attempted => by
    have tolerated : j + 1 < 3 := attempted
    exact (few 1 second).2 j (by omega)
  exact ⟨doubles, positive, second, on paused⟩

/-- The usual pauses with a hundred attempts. -/
def RetryPolicy.patient : RetryPolicy := { standard with maxAttempts := 100 }

/-- The pause after the limit number sixty-four would be cut to half a minute, but what is cut is
longer than a duration can be: a patient call is given up there. -/
theorem RetryPolicy.delay?_patient :
    patient.multiplier = .ofNat 2 ∧ 0 < patient.initialDelay.nanos ∧
    64 + 1 < patient.maxAttempts ∧ patient.delay? 63 = some patient.maxDelay ∧
    patient.delay? 64 = none ∧
    (Retry.Service.limiting.run
      (Retry.call patient (Task.provider (.restartInstance ⟨"i-1"⟩))) 0).1 = none := by
  have none_ : patient.delay? 64 = none := by decide +kernel
  have tolerated : 64 + 1 < patient.maxAttempts := by decide
  have stuck : ¬Retry.Paused patient (fun _ => .error (.rateLimited "busy" none) :
      Nat → ProviderResult Unit) 64 := by
    rw [Retry.Service.paused_iff_of_unasked rfl, none_]
    exact Bool.false_ne_true
  obtain ⟨-, given_up⟩ := Retry.Service.limiting.run_call_limited patient (fun _ => rfl) rfl
  exact ⟨by decide +kernel, by decide, tolerated, by decide +kernel, none_,
    given_up ⟨64, tolerated, stuck⟩⟩

end CloudLifecycle

import CloudLifecycle.Digest.Sha256
import Mathlib.Data.Nat.Find
import Mathlib.Data.Nat.Prime.Infinite

/-!
# SHA-256 by its formulas

`Standard.sha256` is the digest as its definition writes it down: the words that the rounds add are
fractional bits of roots of primes, the words of a schedule are given by recursion on their number,
and so are the variables after each round and the hash after each block.  `Sha256.digest` goes over
lists instead, and gives the same bytes (`Sha256.digest_eq`).
-/

set_option autoImplicit false

namespace CloudLifecycle

/-! ## The formulas -/

namespace Standard

abbrev Word : Type := BitVec 32

/-- The greatest number whose power is at most `n`. -/
def root (k n : Nat) : Nat := Nat.findGreatest (fun r => r ^ k ≤ n) n

/-- The primes in their order. -/
def prime : Nat → Nat
  | 0 => 2
  | i + 1 => Nat.find (Nat.exists_infinite_primes (prime i + 1))

/-- The first 32 bits behind the point of the `k`-th root of the prime with the number `i`. -/
def rootBits (k i : Nat) : Word := BitVec.ofNat 32 (root k (prime i * (2 ^ 32) ^ k))

def choice (x y z : Word) : Word := (x &&& y) ^^^ (~~~x &&& z)

def majority (x y z : Word) : Word := (x &&& y) ^^^ (x &&& z) ^^^ (y &&& z)

def upper0 (x : Word) : Word := x.rotateRight 2 ^^^ x.rotateRight 13 ^^^ x.rotateRight 22

def upper1 (x : Word) : Word := x.rotateRight 6 ^^^ x.rotateRight 11 ^^^ x.rotateRight 25

def lower0 (x : Word) : Word := x.rotateRight 7 ^^^ x.rotateRight 18 ^^^ x >>> 3

def lower1 (x : Word) : Word := x.rotateRight 17 ^^^ x.rotateRight 19 ^^^ x >>> 10

/-- The words of the schedule: those of the block, and then each from four before it. -/
def schedule (block : Nat → Word) (t : Nat) : Word :=
  if t < 16 then block t
  else lower1 (schedule block (t - 2)) + schedule block (t - 7)
    + lower0 (schedule block (t - 15)) + schedule block (t - 16)
termination_by t

/-- The working variables of the rounds, and also the words of a hash. -/
structure Variables where
  a : Word
  b : Word
  c : Word
  d : Word
  e : Word
  f : Word
  g : Word
  h : Word

/-- The hash before the first block. -/
def start : Variables :=
  ⟨rootBits 2 0, rootBits 2 1, rootBits 2 2, rootBits 2 3, rootBits 2 4, rootBits 2 5,
    rootBits 2 6, rootBits 2 7⟩

/-- One round, with a constant and a word of the schedule. -/
def Variables.next (v : Variables) (constant word : Word) : Variables :=
  let t1 := v.h + upper1 v.e + choice v.e v.f v.g + constant + word
  let t2 := upper0 v.a + majority v.a v.b v.c
  ⟨t1 + t2, v.a, v.b, v.c, v.d + t1, v.e, v.f, v.g⟩

/-- The variables after so many rounds. -/
def Variables.after (v : Variables) (words : Nat → Word) : Nat → Variables
  | 0 => v
  | t + 1 => (v.after words t).next (rootBits 3 t) (words t)

/-- The hash after one more block. -/
def Variables.absorb (v : Variables) (block : Nat → Word) : Variables :=
  let r := v.after (schedule block) 64
  ⟨v.a + r.a, v.b + r.b, v.c + r.c, v.d + r.d, v.e + r.e, v.f + r.f, v.g + r.g, v.h + r.h⟩

/-- The bytes of a number of bits, the most significant first. -/
def octets {width : Nat} (count : Nat) (x : BitVec width) : List UInt8 :=
  (List.range count).map fun i => UInt8.ofBitVec (x.extractLsb' (8 * (count - 1 - i)) 8)

/-- The message with a one bit, zeros and its length in bits behind it, which fill up the last of
its blocks of 64 bytes. -/
def padded (message : List UInt8) : List UInt8 :=
  message ++ 0x80 :: List.replicate ((55 - (message.length : Int)) % 64).toNat 0
    ++ octets 8 (BitVec.ofNat 64 (8 * message.length))

/-- A word of a text of bytes that begins at a place. -/
def wordAt (bytes : List UInt8) (k : Nat) : Word :=
  (bytes.getD k 0).toBitVec ++ (bytes.getD (k + 1) 0).toBitVec ++ (bytes.getD (k + 2) 0).toBitVec
    ++ (bytes.getD (k + 3) 0).toBitVec

/-- The hash after so many blocks. -/
def hash (bytes : List UInt8) : Nat → Variables
  | 0 => start
  | i + 1 => (hash bytes i).absorb fun j => wordAt bytes (64 * i + 4 * j)

/-- The digest of a message. -/
def sha256 (message : List UInt8) : List UInt8 :=
  let v := hash (padded message) ((padded message).length / 64)
  [v.a, v.b, v.c, v.d, v.e, v.f, v.g, v.h].flatMap (octets 4)

/-! ## Their constants -/

theorem root_eq {k n r : Nat} (pos : k ≠ 0) (lower : r ^ k ≤ n) (upper : n < (r + 1) ^ k) :
    root k n = r := by
  refine Nat.findGreatest_eq_iff.2 ⟨(Nat.le_self_pow pos r).trans lower, fun _ => lower, ?_⟩
  intro s above _
  exact Nat.not_le.2 (upper.trans_le (Nat.pow_le_pow_left above k))

/-- The first 64 primes. -/
def primes : List Nat := [
  2, 3, 5, 7, 11, 13, 17, 19, 23, 29, 31, 37, 41, 43, 47, 53, 59, 61, 67, 71, 73, 79, 83, 89, 97,
  101, 103, 107, 109, 113, 127, 131, 137, 139, 149, 151, 157, 163, 167, 173, 179, 181, 191, 193,
  197, 199, 211, 223, 227, 229, 233, 239, 241, 251, 257, 263, 269, 271, 277, 281, 283, 293, 307,
  311]

/-- Nothing from 2 to 17 divides the number but itself. -/
def Undivided (p : Nat) : Prop := ∀ d < 18, 2 ≤ d → d < p → ¬d ∣ p

instance (p : Nat) : Decidable (Undivided p) :=
  inferInstanceAs (Decidable (∀ d < 18, 2 ≤ d → d < p → ¬d ∣ p))

theorem prime_iff {p : Nat} (small : p < 18 ^ 2) : p.Prime ↔ 2 ≤ p ∧ Undivided p := by
  constructor
  · intro h
    refine ⟨h.two_le, fun d _ two below divides => ?_⟩
    rcases (Nat.dvd_prime h).1 divides with rfl | rfl
    · omega
    · omega
  · rintro ⟨two, undivided⟩
    by_contra composite
    have square := Nat.minFac_sq_le_self (by omega) composite
    have least : p.minFac < 18 := (Nat.pow_lt_pow_iff_left (by decide)).1 (square.trans_lt small)
    have factor : p.minFac.Prime := Nat.minFac_prime (by omega)
    have below : p.minFac < p := by
      refine lt_of_le_of_ne (Nat.minFac_le (by omega)) fun same => composite ?_
      rwa [same] at factor
    exact undivided _ least factor.two_le below (Nat.minFac_dvd p)

theorem prime_eq {i : Nat} (h : i < 64) : prime i = primes.getD i 0 := by
  -- From one number of the list to the next one there are 14 steps at most, and no prime between.
  have follows : ∀ i < 63, 2 ≤ primes.getD i 0 ∧ primes.getD i 0 + 1 ≤ primes.getD (i + 1) 0 ∧
      primes.getD (i + 1) 0 ≤ primes.getD i 0 + 14 ∧ primes.getD (i + 1) 0 < 18 ^ 2 ∧
      Undivided (primes.getD (i + 1) 0) ∧
      ∀ gap < 13, primes.getD i 0 + 1 + gap < primes.getD (i + 1) 0 →
        ¬Undivided (primes.getD i 0 + 1 + gap) := by
    decide +kernel
  induction i with
  | zero => rfl
  | succ i ih =>
    obtain ⟨two, above, near, small, undivided, divided⟩ := follows i (by omega)
    have before := ih (by omega)
    rw [prime, Nat.find_eq_iff]
    simp only [before]
    refine ⟨⟨above, (prime_iff small).2 ⟨by omega, undivided⟩⟩, ?_⟩
    rintro p below ⟨between, isPrime⟩
    obtain ⟨gap, rfl⟩ := Nat.exists_eq_add_of_le between
    exact divided gap (by omega) below ((prime_iff (below.trans small)).1 isPrime).2

/-- The word stands behind the point of the root. -/
def IsRootBits (k i : Nat) (w : UInt32) : Prop :=
  ∃ whole ∈ List.range 7, (whole * 2 ^ 32 + w.toNat) ^ k ≤ primes.getD i 0 * (2 ^ 32) ^ k ∧
    primes.getD i 0 * (2 ^ 32) ^ k < (whole * 2 ^ 32 + w.toNat + 1) ^ k

instance (k i : Nat) (w : UInt32) : Decidable (IsRootBits k i w) := List.decidableBEx _ _

theorem IsRootBits.eq {k i : Nat} {w : UInt32} (h : IsRootBits k i w) (pos : k ≠ 0) (hi : i < 64) :
    w.toBitVec = rootBits k i := by
  obtain ⟨whole, -, lower, upper⟩ := h
  have low : w.toNat < 2 ^ 32 := w.toNat_lt
  apply BitVec.eq_of_toNat_eq
  rw [rootBits, prime_eq hi, root_eq pos lower upper, BitVec.toNat_ofNat, UInt32.toNat_toBitVec]
  omega

end Standard

/-! ## The digest over lists -/

namespace Sha256

open Standard

/-- The words of a hash. -/
def Chaining.variables (s : Chaining) : Variables :=
  ⟨s.a.toBitVec, s.b.toBitVec, s.c.toBitVec, s.d.toBitVec, s.e.toBitVec, s.f.toBitVec,
    s.g.toBitVec, s.h.toBitVec⟩

theorem variables_start : start.variables = Standard.start := by
  have bits : ∀ i < 8, IsRootBits 2 i
      ([start.a, start.b, start.c, start.d, start.e, start.f, start.g, start.h].getD i 0) := by
    decide +kernel
  have word (i : Nat) (h : i < 8) := (bits i h).eq (by decide) (by omega)
  rw [Chaining.variables, Standard.start, Variables.mk.injEq]
  exact ⟨word 0 (by decide), word 1 (by decide), word 2 (by decide), word 3 (by decide),
    word 4 (by decide), word 5 (by decide), word 6 (by decide), word 7 (by decide)⟩

theorem roundWords_getD {t : Nat} (h : t < 64) :
    (roundWords.getD t 0).toBitVec = rootBits 3 t := by
  have bits : ∀ t < 64, IsRootBits 3 t (roundWords.getD t 0) := by decide +kernel
  exact (bits t h).eq (by decide) h

/-! ### Words -/

theorem toBitVec_shiftRight (w n : UInt32) (h : n.toNat < 32) :
    (w >>> n).toBitVec = w.toBitVec >>> n.toNat := by
  have same : (n.toBitVec % 32).toNat = n.toNat := Nat.mod_eq_of_lt h
  rw [UInt32.toBitVec_shiftRight, BitVec.ushiftRight_eq', same]

theorem toBitVec_rotateRight (w n : UInt32) (pos : 0 < n.toNat) (h : n.toNat < 32) :
    (rotateRight w n).toBitVec = w.toBitVec.rotateRight n.toNat := by
  have back : (32 - n).toNat = 32 - n.toNat := UInt32.toNat_sub_of_le 32 n h.le
  have left : ((32 - n).toBitVec % 32).toNat = 32 - n.toNat := by
    show (32 - n).toNat % 32 = 32 - n.toNat
    rw [back, Nat.mod_eq_of_lt (by omega)]
  rw [rotateRight, BitVec.rotateRight_def, UInt32.toBitVec_or, toBitVec_shiftRight w n h,
    UInt32.toBitVec_shiftLeft, BitVec.shiftLeft_eq', left, Nat.mod_eq_of_lt h]

theorem toBitVec_upper0 (w : UInt32) :
    (rotateRight w 2 ^^^ rotateRight w 13 ^^^ rotateRight w 22).toBitVec = upper0 w.toBitVec := by
  rw [UInt32.toBitVec_xor, UInt32.toBitVec_xor, toBitVec_rotateRight w 2 (by decide) (by decide),
    toBitVec_rotateRight w 13 (by decide) (by decide),
    toBitVec_rotateRight w 22 (by decide) (by decide)]
  rfl

theorem toBitVec_upper1 (w : UInt32) :
    (rotateRight w 6 ^^^ rotateRight w 11 ^^^ rotateRight w 25).toBitVec = upper1 w.toBitVec := by
  rw [UInt32.toBitVec_xor, UInt32.toBitVec_xor, toBitVec_rotateRight w 6 (by decide) (by decide),
    toBitVec_rotateRight w 11 (by decide) (by decide),
    toBitVec_rotateRight w 25 (by decide) (by decide)]
  rfl

theorem toBitVec_lower0 (w : UInt32) :
    (rotateRight w 7 ^^^ rotateRight w 18 ^^^ (w >>> 3)).toBitVec = lower0 w.toBitVec := by
  rw [UInt32.toBitVec_xor, UInt32.toBitVec_xor, toBitVec_rotateRight w 7 (by decide) (by decide),
    toBitVec_rotateRight w 18 (by decide) (by decide), toBitVec_shiftRight w 3 (by decide)]
  rfl

theorem toBitVec_lower1 (w : UInt32) :
    (rotateRight w 17 ^^^ rotateRight w 19 ^^^ (w >>> 10)).toBitVec = lower1 w.toBitVec := by
  rw [UInt32.toBitVec_xor, UInt32.toBitVec_xor, toBitVec_rotateRight w 17 (by decide) (by decide),
    toBitVec_rotateRight w 19 (by decide) (by decide), toBitVec_shiftRight w 10 (by decide)]
  rfl

/-- A byte behind a text of bits moves the bits before it. -/
theorem setWidth_append {n : Nat} (x : BitVec n) (byte : BitVec 8) :
    (x ++ byte).setWidth 32 = x.setWidth 32 <<< 8 ||| byte.setWidth 32 := by
  apply BitVec.eq_of_getLsbD_eq
  intro i hi
  simp only [BitVec.getLsbD_setWidth, BitVec.getLsbD_append, BitVec.getLsbD_or,
    BitVec.getLsbD_shiftLeft, hi, decide_true, Bool.true_and]
  by_cases low : i < 8
  · simp [low]
  · simp [low, BitVec.getLsbD_of_ge byte i (by omega), show i - 8 < 32 by omega]

theorem toBitVec_word (a b c d : UInt8) :
    (a.toUInt32 <<< 24 ||| b.toUInt32 <<< 16 ||| c.toUInt32 <<< 8 ||| d.toUInt32).toBitVec =
      a.toBitVec ++ b.toBitVec ++ c.toBitVec ++ d.toBitVec := by
  have whole : (a.toBitVec ++ b.toBitVec ++ c.toBitVec ++ d.toBitVec).setWidth 32 =
      a.toBitVec ++ b.toBitVec ++ c.toBitVec ++ d.toBitVec := BitVec.setWidth_eq _
  rw [← whole, setWidth_append, setWidth_append, setWidth_append]
  simp only [BitVec.shiftLeft_or_distrib, ← BitVec.shiftLeft_add]
  rfl

/-- Bytes are read as words from their start on. -/
theorem words_eq {n : Nat} {bytes : List UInt8} (h : bytes.length = 4 * n) :
    words bytes = (List.range n).map fun j => UInt32.ofBitVec (wordAt bytes (4 * j)) := by
  induction n generalizing bytes with
  | zero =>
    obtain rfl := List.length_eq_zero_iff.1 h
    rfl
  | succ n ih =>
    match bytes, h with
    | a :: b :: c :: d :: rest, h =>
      have first : a.toUInt32 <<< 24 ||| b.toUInt32 <<< 16 ||| c.toUInt32 <<< 8 ||| d.toUInt32 =
          UInt32.ofBitVec (wordAt (a :: b :: c :: d :: rest) (4 * 0)) :=
        UInt32.toBitVec_inj.1 (toBitVec_word a b c d)
      have others : words rest = (List.range n).map fun j =>
          UInt32.ofBitVec (wordAt (a :: b :: c :: d :: rest) (4 * (j + 1))) :=
        ih (by simp only [List.length_cons] at h; omega)
      rw [words, first, others, List.range_succ_eq_map, List.map_cons, List.map_map]
      rfl

theorem bigEndian_eq {w count : Nat} (fits : 8 * count ≤ w) (n : Nat) :
    bigEndian count n = octets count (BitVec.ofNat w n) := by
  have byte {k : Nat} (hk : k < count) : UInt8.ofNat (n / Nat.pow 256 k) =
      UInt8.ofBitVec ((BitVec.ofNat w n).extractLsb' (8 * k) 8) := by
    have parts : 2 ^ w = 2 ^ (8 * k) * 2 ^ (w - 8 * k) := by
      rw [← Nat.pow_add]
      congr 1
      omega
    have bits : 2 ^ 8 ∣ 2 ^ (w - 8 * k) := Nat.pow_dvd_pow 2 (by omega)
    apply UInt8.toNat_inj.1
    show n / 256 ^ k % 2 ^ 8 = _
    rw [UInt8.toNat_ofBitVec, BitVec.extractLsb'_toNat, BitVec.toNat_ofNat,
      Nat.shiftRight_eq_div_pow, parts, Nat.mod_mul_right_div_self, Nat.mod_mod_of_dvd _ bits,
      Nat.pow_mul]
  apply List.ext_getElem
  · simp [bigEndian, octets]
  · intro i hi _
    have place : i < count := by simpa [bigEndian] using hi
    simpa [bigEndian, octets] using byte (k := count - 1 - i) (by omega)

/-! ### Blocks -/

theorem variables_round (s : Chaining) (word constant : UInt32) :
    (round s (word + constant)).variables =
      s.variables.next constant.toBitVec word.toBitVec := by
  simp only [round, Chaining.variables, Variables.next, UInt32.toBitVec_add, toBitVec_upper0,
    toBitVec_upper1, BitVec.add_comm word.toBitVec, ← BitVec.add_assoc]
  rfl

section Block

variable (block : Nat → Word)

/-- A word of the schedule. -/
def scheduled (t : Nat) : UInt32 := UInt32.ofBitVec (Standard.schedule block t)

theorem nextWord_eq {m : Nat} (h : 16 ≤ m) :
    nextWord ((List.range m).map (scheduled block)).reverse = scheduled block m := by
  have recent {i : Nat} (hi : i < 16) :
      ((List.range m).map (scheduled block)).reverse.getD i 0 = scheduled block (m - (i + 1)) := by
    have place : m - 1 - i < m := by omega
    rw [List.getD_eq_getElem?_getD, List.getElem?_reverse (by simp; omega), List.length_map,
      List.length_range, List.getElem?_map, List.getElem?_range place, Nat.sub_right_comm,
      Nat.sub_sub]
    rfl
  have own : Standard.schedule block m = lower1 (Standard.schedule block (m - 2)) +
      Standard.schedule block (m - 7) + lower0 (Standard.schedule block (m - 15)) +
        Standard.schedule block (m - 16) := by
    rw [Standard.schedule, if_neg (by omega)]
  apply UInt32.toBitVec_inj.1
  simp only [nextWord, recent (i := 1) (by decide), recent (i := 6) (by decide),
    recent (i := 14) (by decide), recent (i := 15) (by decide), UInt32.toBitVec_add,
    toBitVec_lower0, toBitVec_lower1]
  simp only [scheduled, own]
  ac_rfl

theorem extend_eq {m : Nat} (h : 16 ≤ m) (n : Nat) :
    extend n ((List.range m).map (scheduled block)).reverse =
      ((List.range (m + n)).map (scheduled block)).reverse := by
  induction n generalizing m with
  | zero => rfl
  | succ n ih =>
    have more : nextWord ((List.range m).map (scheduled block)).reverse ::
        ((List.range m).map (scheduled block)).reverse =
          ((List.range (m + 1)).map (scheduled block)).reverse := by
      rw [nextWord_eq block h, List.range_succ, List.map_append, List.reverse_append]
      rfl
    rw [extend, more, ih (by omega), Nat.add_right_comm, Nat.add_assoc]

variable {block} {bytes : List UInt8}

/-- The schedule of bytes that hold the words of a block. -/
theorem schedule_eq (h : bytes.length = 64) (held : ∀ j < 16, wordAt bytes (4 * j) = block j) :
    schedule bytes = (List.range 64).map (scheduled block) := by
  have first : words bytes = (List.range 16).map (scheduled block) := by
    rw [words_eq (n := 16) h]
    refine List.map_congr_left fun j hj => ?_
    have below : j < 16 := List.mem_range.1 hj
    rw [scheduled, Standard.schedule, if_pos below, held j below]
  rw [schedule, first, extend_eq block (Nat.le_refl 16), List.reverse_reverse]

/-- So many rounds over the sums of words and constants. -/
theorem variables_foldl (block : Nat → Word) (s : Chaining) {n : Nat} (h : n ≤ 64) :
    ((List.range n).foldl (fun s t => round s (scheduled block t + roundWords.getD t 0))
      s).variables = s.variables.after (Standard.schedule block) n := by
  induction n with
  | zero => rfl
  | succ n ih =>
    rw [List.range_succ, List.foldl_append, List.foldl_cons, List.foldl_nil, variables_round,
      ih (by omega), roundWords_getD (by omega)]
    rfl

theorem variables_compress (s : Chaining) (h : bytes.length = 64)
    (held : ∀ j < 16, wordAt bytes (4 * j) = block j) :
    (compress s bytes).variables = s.variables.absorb block := by
  have constants : roundWords = (List.range 64).map (roundWords.getD · 0) := by decide +kernel
  have sums : List.zipWith (· + ·) (schedule bytes) roundWords =
      (List.range 64).map fun t => scheduled block t + roundWords.getD t 0 := by
    rw [schedule_eq h held]
    nth_rewrite 1 [constants]
    rw [List.zipWith_map, List.zipWith_self]
  have rounds := variables_foldl block s (Nat.le_refl 64)
  rw [Variables.absorb, ← rounds, compress, sums, List.foldl_map]
  rfl

end Block

/-! ### Messages -/

theorem variables_absorb (bytes : List UInt8) (count i : Nat) (s : Chaining)
    (before : s.variables = hash bytes i) (fits : 64 * (i + count) ≤ bytes.length) :
    (absorb count s (bytes.drop (64 * i))).variables = hash bytes (i + count) := by
  induction count generalizing i s with
  | zero => exact before
  | succ count ih =>
    have length : ((bytes.drop (64 * i)).take 64).length = 64 := by
      rw [List.length_take, List.length_drop]
      omega
    have held : ∀ j < 16, wordAt ((bytes.drop (64 * i)).take 64) (4 * j) =
        wordAt bytes (64 * i + 4 * j) := by
      intro j hj
      have byte {k : Nat} (hk : k < 64) :
          ((bytes.drop (64 * i)).take 64).getD k 0 = bytes.getD (64 * i + k) 0 := by
        rw [List.getD_eq_getElem?_getD, List.getElem?_take_of_lt hk, List.getElem?_drop,
          List.getD_eq_getElem?_getD]
      simp only [wordAt, byte (k := 4 * j) (by omega), byte (k := 4 * j + 1) (by omega),
        byte (k := 4 * j + 2) (by omega), byte (k := 4 * j + 3) (by omega), Nat.add_assoc]
    have next : (compress s ((bytes.drop (64 * i)).take 64)).variables = hash bytes (i + 1) := by
      rw [variables_compress s length held, before]
      rfl
    rw [absorb, List.drop_drop, ← Nat.mul_succ, ih (i + 1) _ next (by omega)]
    congr 1
    omega

theorem padded_eq (message : List UInt8) : message ++ padding message.length = padded message := by
  have zeros : (119 - message.length % 64) % 64 =
      ((55 - (message.length : Int)) % 64).toNat := by omega
  rw [padding, padded, zeros, bigEndian_eq (w := 64) (Nat.le_refl 64), Nat.mul_comm]
  simp

/-- **The digest is the one of the formulas.** -/
theorem digest_eq (message : List UInt8) : digest message = sha256 message := by
  have absorbed : (absorb ((padded message).length / 64) start (padded message)).variables =
      hash (padded message) ((padded message).length / 64) := by
    have whole := variables_absorb (padded message) ((padded message).length / 64) 0 start
      variables_start (by omega)
    rwa [Nat.mul_zero, List.drop_zero, Nat.zero_add] at whole
  have word (w : UInt32) : bigEndian 4 w.toNat = octets 4 w.toBitVec := by
    rw [bigEndian_eq (w := 32) (Nat.le_refl 32)]
    congr 1
    exact BitVec.ofNat_toNat ..
  rw [digest, sha256, ← absorbed]
  simp only [padded_eq, word]
  rfl

end Sha256

end CloudLifecycle

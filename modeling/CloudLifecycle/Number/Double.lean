/-!
# Double-precision numbers

A `Double` is a binary64 number: a sign and a magnitude counted in units of `2 ^ -1074`, the
distance of the smallest ones, or an infinity, or not a number.  Every finite double is a whole
number of units, so exact results are ratios of natural numbers and `roundUnits` rounds such a
ratio to the nearest double, a tie going to the even significand.  The arithmetic here is the exact
result of each operation, rounded once.
-/

set_option autoImplicit false

namespace CloudLifecycle

/-- A binary64 number; the magnitude of a finite one counts units of `2 ^ -1074`. -/
inductive Double where
  | finite (negative : Bool) (units : Nat)
  | infinite (negative : Bool)
  | nan
deriving DecidableEq, Repr

namespace Double

/-- Units in one. -/
def scale : Nat := Nat.pow 2 1074

/-- The least magnitude, in units, that is too large for a double. -/
def limit : Nat := Nat.pow 2 2098

/-- The nearest whole number to `num / den`; a half goes to the even neighbour. -/
def roundHalfEven (num den : Nat) : Nat :=
  let quotient := num / den
  let twice := 2 * (num % den)
  if twice < den then quotient
  else if den < twice then quotient + 1
  else if quotient % 2 = 0 then quotient else quotient + 1

/-- Binary digits of a number, none for zero. -/
def bitLength (n : Nat) : Nat := if n = 0 then 0 else n.log2 + 1

/-- The ratio `num / den` of units rounded to a significand of 53 binary digits. -/
def roundUnits (num den : Nat) : Nat :=
  let step := Nat.pow 2 (bitLength (num / den) - 53)
  roundHalfEven num (den * step) * step

/-- The double nearest to `num / den` units, an infinity from `limit` on. -/
def ofUnits (negative : Bool) (num den : Nat) : Double :=
  let units := roundUnits num den
  if units < limit then .finite negative units else .infinite negative

def zero : Double := .finite false 0

/-- The double nearest to a natural number. -/
def ofNat (n : Nat) : Double := ofUnits false (n * scale) 1

def one : Double := ofNat 1

/-- The double nearest to `digits * 10 ^ exponent`. -/
def ofDecimal (negative : Bool) (digits : Nat) (exponent : Int) : Double :=
  match exponent with
  | .ofNat e => ofUnits negative (digits * Nat.pow 10 e * scale) 1
  | .negSucc e => ofUnits negative (digits * scale) (Nat.pow 10 (e + 1))

def isFinite : Double → Bool
  | .finite _ _ => true
  | _ => false

def isZero : Double → Bool
  | .finite _ units => units == 0
  | _ => false

def neg : Double → Double
  | .finite negative units => .finite (!negative) units
  | .infinite negative => .infinite (!negative)
  | .nan => .nan

/-- The rounded product; zero times an infinity is not a number. -/
def mul : Double → Double → Double
  | .finite a x, .finite b y => ofUnits (a != b) (x * y) scale
  | .finite a x, .infinite b => if x = 0 then .nan else .infinite (a != b)
  | .infinite a, .finite b y => if y = 0 then .nan else .infinite (a != b)
  | .infinite a, .infinite b => .infinite (a != b)
  | _, _ => .nan

/-- The rounded quotient; a number divided by zero is infinite, zero by zero not a number. -/
def div : Double → Double → Double
  | .finite a x, .finite b y =>
    if y = 0 then (if x = 0 then .nan else .infinite (a != b))
    else ofUnits (a != b) (x * scale) y
  | .finite a _, .infinite b => .finite (a != b) 0
  | .infinite a, .finite b _ => .infinite (a != b)
  | _, _ => .nan

/-- The rounded sum. -/
def add : Double → Double → Double
  | .finite a x, .finite b y =>
    if a = b then ofUnits a (x + y) 1
    else if x = y then zero
    else if y < x then ofUnits a (x - y) 1
    else ofUnits b (y - x) 1
  | .finite _ _, .infinite b => .infinite b
  | .infinite a, .finite _ _ => .infinite a
  | .infinite a, .infinite b => if a = b then .infinite a else .nan
  | _, _ => .nan

/-- The power loop: `acc` gathers the squares of `base` that the binary digits of `n` select. -/
def powerLoop : Nat → Double → Nat → Double → Double
  | 0, _, _, acc => acc
  | fuel + 1, base, n, acc =>
    let acc := if n % 2 = 1 then mul acc base else acc
    if n / 2 = 0 then acc else powerLoop fuel (mul base base) (n / 2) acc

/-- A whole power by repeated squaring, rounded at each product; a negative one is the reciprocal
of the positive one. -/
def power (base : Double) : Int → Double
  | .ofNat n => powerLoop (n.log2 + 1) base n one
  | .negSucc n => div one (powerLoop ((n + 1).log2 + 1) base (n + 1) one)

end Double

end CloudLifecycle

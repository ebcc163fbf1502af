import CloudLifecycle.Number.Double

/-!
# Durations

A `Duration` counts whole nanoseconds and never is negative.  `Duration.timesDouble?` is the product
with a double that back-off needs: seconds as a double, one rounded product, and the nearest
nanosecond of it, which fails when the product is negative, not a number, or does not fit sixty-four
bits of seconds.
-/

set_option autoImplicit false

namespace CloudLifecycle

/-- A span of time in whole nanoseconds. -/
structure Duration where
  nanos : Nat
deriving DecidableEq, Repr, Inhabited

namespace Duration

def perSecond : Nat := 1000000000

def perMilli : Nat := 1000000

def zero : Duration := ⟨0⟩

def ofSeconds (n : Nat) : Duration := ⟨n * perSecond⟩

def ofMillis (n : Nat) : Duration := ⟨n * perMilli⟩

/-- Whole seconds. -/
def seconds (d : Duration) : Nat := d.nanos / perSecond

/-- Nanoseconds beyond the whole seconds. -/
def subsecond (d : Duration) : Nat := d.nanos % perSecond

/-- Whole milliseconds. -/
def millis (d : Duration) : Nat := d.nanos / perMilli

/-- The duration rounded up to a whole millisecond. -/
def ceilMilli (d : Duration) : Duration := ⟨(d.nanos + perMilli - 1) / perMilli * perMilli⟩

/-- The longest time that a timer is set for when its end cannot be counted: thirty years. -/
def farFuture : Duration := ofSeconds (86400 * 365 * 30)

/-- How long a pause lasts.  A timer counts whole milliseconds; a pause whose nanoseconds do not fit
sixty-four bits ends in the far future. -/
def pause (d : Duration) : Duration :=
  if 0x10000000000000000 ≤ d.nanos then farFuture else d.ceilMilli

instance : Add Duration := ⟨fun a b => ⟨a.nanos + b.nanos⟩⟩
instance : Sub Duration := ⟨fun a b => ⟨a.nanos - b.nanos⟩⟩
instance : LT Duration := ⟨fun a b => a.nanos < b.nanos⟩
instance : LE Duration := ⟨fun a b => a.nanos ≤ b.nanos⟩
instance (a b : Duration) : Decidable (a < b) := inferInstanceAs (Decidable (a.nanos < b.nanos))
instance (a b : Duration) : Decidable (a ≤ b) := inferInstanceAs (Decidable (a.nanos ≤ b.nanos))
instance : Min Duration := ⟨fun a b => ⟨min a.nanos b.nanos⟩⟩

@[simp] theorem add_nanos (a b : Duration) : (a + b).nanos = a.nanos + b.nanos := rfl
@[simp] theorem sub_nanos (a b : Duration) : (a - b).nanos = a.nanos - b.nanos := rfl
@[simp] theorem min_nanos (a b : Duration) : (min a b).nanos = min a.nanos b.nanos := rfl
theorem lt_iff {a b : Duration} : a < b ↔ a.nanos < b.nanos := Iff.rfl
theorem le_iff {a b : Duration} : a ≤ b ↔ a.nanos ≤ b.nanos := Iff.rfl

/-- The seconds of a duration as a double: whole seconds plus the fraction, each rounded. -/
def toDouble (d : Duration) : Double :=
  (Double.ofNat d.seconds).add ((Double.ofNat d.subsecond).div (Double.ofNat perSecond))

/-- The nearest nanosecond to a number of seconds, a half going to the even one; nothing for a
negative number, for no number, and from `2 ^ 64` seconds on. -/
def ofDouble? : Double → Option Duration
  | .finite negative units =>
    if negative && units != 0 then none
    else if units < 0x10000000000000000 * Double.scale then
      some ⟨Double.roundHalfEven (units * perSecond) Double.scale⟩
    else none
  | _ => none

/-- The duration times a factor, where that is a duration. -/
def timesDouble? (d : Duration) (factor : Double) : Option Duration :=
  ofDouble? (factor.mul d.toDouble)

end Duration

end CloudLifecycle

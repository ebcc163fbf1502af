import CloudLifecycle.Number.Double

/-!
# The shortest decimal text of a double

A double is written with the fewest digits that read back as the same double, and of those with the
ones nearest to it.  `Decimal.shortest` finds them: for one digit, two digits and so on it looks at
the two neighbours of the double on that decimal grid.  `Double.text` sets the point: numbers from
`10 ^ -5` up to `10 ^ 16` are written positionally and always keep a fraction, others get an
exponent.
-/

set_option autoImplicit false

namespace CloudLifecycle

/-- The decimal number `digits * 10 ^ exponent`. -/
structure Decimal where
  digits : Nat
  exponent : Int
deriving DecidableEq, Repr

namespace Decimal

/-- The ratio of `units / 10 ^ exponent`, counted in ones, as numerator and denominator. -/
def ratio (units : Nat) : Int → Nat × Nat
  | .ofNat e => (units, Double.scale * Nat.pow 10 e)
  | .negSucc e => (units * Nat.pow 10 (e + 1), Double.scale)

/-- Least `j`, searched from `j` on, with `10 ^ j * units` at least one. -/
def leadingZeros (units : Nat) : Nat → Nat → Nat
  | 0, j => j
  | fuel + 1, j =>
    if Double.scale ≤ units * Nat.pow 10 j then j else leadingZeros units fuel (j + 1)

/-- The exponent of the first decimal digit of a positive magnitude. -/
def leadingExponent (units : Nat) : Int :=
  if Double.scale ≤ units then ((units / Double.scale).repr.length : Int) - 1
  else -(leadingZeros units 330 1 : Int)

/-- The magnitude reads back as `units`. -/
def readsBack (units : Nat) (d : Decimal) : Bool :=
  Double.ofDecimal false d.digits d.exponent = .finite false units

/-- The neighbour of the magnitude on the grid of `10 ^ exponent` that reads back and is nearest;
a tie goes to the even one. -/
def nearestOn (units : Nat) (exponent : Int) : Option Decimal :=
  let (num, den) := ratio units exponent
  let below : Decimal := ⟨num / den, exponent⟩
  let above : Decimal := ⟨num / den + 1, exponent⟩
  match readsBack units below, readsBack units above with
  | true, true => some (if Double.roundHalfEven num den = num / den then below else above)
  | true, false => some below
  | false, true => some above
  | false, false => none

/-- The first grid with a neighbour that reads back, from `count` digits on. -/
def searchFrom (units : Nat) (leading : Int) : Nat → Nat → Decimal
  | 0, count =>
    let exponent := leading - (count : Int) + 1
    let (num, den) := ratio units exponent
    ⟨Double.roundHalfEven num den, exponent⟩
  | fuel + 1, count =>
    match nearestOn units (leading - (count : Int) + 1) with
    | some d => d
    | none => searchFrom units leading fuel (count + 1)

/-- Moves the zeros at the end of the digits into the exponent. -/
def trim : Nat → Decimal → Decimal
  | 0, d => d
  | fuel + 1, d =>
    if d.digits ≠ 0 && d.digits % 10 = 0 then trim fuel ⟨d.digits / 10, d.exponent + 1⟩ else d

/-- The decimal of fewest digits that reads back as a positive magnitude. -/
def shortest (units : Nat) : Decimal :=
  trim 20 (searchFrom units (leadingExponent units) 17 1)

/-- An exponent with its sign, also a positive one. -/
def exponentText (e : Int) : String :=
  if 0 ≤ e then "e+" ++ e.repr else "e" ++ e.repr

/-- The digits with the point set: positional where the point falls before the 17th digit and no
more than four zeros follow it, with an exponent elsewhere. -/
def text (d : Decimal) : String :=
  let digits := d.digits.repr
  let count := digits.length
  let point : Int := count + d.exponent
  if 0 ≤ d.exponent && point ≤ 16 then
    digits ++ String.ofList (List.replicate d.exponent.toNat '0') ++ ".0"
  else if 0 < point && point ≤ 16 then
    String.ofList (digits.toList.take point.toNat) ++ "."
      ++ String.ofList (digits.toList.drop point.toNat)
  else if -5 < point && point ≤ 0 then
    "0." ++ String.ofList (List.replicate (-point).toNat '0') ++ digits
  else if count = 1 then
    digits ++ exponentText (point - 1)
  else
    String.ofList (digits.toList.take 1) ++ "." ++ String.ofList (digits.toList.drop 1)
      ++ exponentText (point - 1)

end Decimal

namespace Double

/-- The shortest text that reads back, with a fraction or an exponent; the sign of zero is kept. -/
def text : Double → String
  | .finite negative units =>
    let magnitude := if units = 0 then "0.0" else (Decimal.shortest units).text
    if negative then "-" ++ magnitude else magnitude
  | .infinite negative => if negative then "-inf" else "inf"
  | .nan => "NaN"

end Double

end CloudLifecycle

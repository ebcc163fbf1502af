import CloudLifecycle.Number.Double

/-!
# Number literals

Numbers in a text are read digit by digit.  A literal without fraction and exponent that fits a
signed or unsigned 64-bit word is a whole number; every other literal is a double.  The double is
the significand, as far as it fits 64 bits, times or divided by a power of ten, each step rounded;
digits that no longer fit only move the exponent.  A literal beyond the largest double is refused;
`Numeral.skip` looks at the form of a literal only.
-/

set_option autoImplicit false

namespace CloudLifecycle

/-- What a number literal means. -/
inductive Numeral where
  | whole (value : Int)
  | real (value : Double)
deriving DecidableEq, Repr

namespace Numeral

/-- The largest unsigned word. -/
def maxWord : Nat := 0xFFFFFFFFFFFFFFFF

/-- The largest exponent that is still counted. -/
def maxExponent : Nat := 0x7FFFFFFF

def digitValue (c : Char) : Nat := c.toNat - '0'.toNat

/-- The leading digits and the rest. -/
def spanDigits (cs : List Char) : List Char × List Char :=
  (cs.takeWhile Char.isDigit, cs.dropWhile Char.isDigit)

/-- Takes in digits while the significand fits a word; gives it and the digits left over. -/
def accumulate : Nat → List Char → Nat × List Char
  | significand, [] => (significand, [])
  | significand, c :: rest =>
    let next := significand * 10 + digitValue c
    if next ≤ maxWord then accumulate next rest else (significand, c :: rest)

/-- Divides or multiplies by a power of ten, in steps that stay within the powers a double holds;
nothing when the result is too large. -/
def scaleBy : Nat → Double → Int → Option Double
  | 0, value, _ => some value
  | fuel + 1, value, exponent =>
    if exponent.natAbs ≤ 308 then
      if 0 ≤ exponent then
        let scaled := value.mul (Double.ofNat (Nat.pow 10 exponent.natAbs))
        if scaled.isFinite then some scaled else none
      else some (value.div (Double.ofNat (Nat.pow 10 exponent.natAbs)))
    else if value.isZero then some value
    else if 0 ≤ exponent then none
    else scaleBy fuel (value.div (Double.ofNat (Nat.pow 10 308))) (exponent + 308)

/-- The double of a significand and a power of ten; the number of steps that can change the value
is small, since sixty-four bits are divided away after three of them. -/
def realOf (negative : Bool) (significand : Nat) (exponent : Int) : Option Double :=
  (scaleBy 8 (Double.ofNat significand) exponent).map fun d => if negative then d.neg else d

/-- Reads the exponent part after its letter: the value with the rest of the text. -/
def readExponent (negative : Bool) (significand : Nat) (start : Int) (cs : List Char) :
    Option (Double × List Char) :=
  let (down, cs) := match cs with
    | '+' :: rest => (false, rest)
    | '-' :: rest => (true, rest)
    | _ => (false, cs)
  let (digits, rest) := spanDigits cs
  if digits.isEmpty then none
  else
    let exponent := digits.foldl (fun n c => n * 10 + digitValue c) 0
    if exponent ≤ maxExponent then
      (realOf negative significand (if down then start - exponent else start + exponent)).map
        (·, rest)
    else if significand ≠ 0 && !down then none
    else some (.finite negative 0, rest)

/-- Reads an exponent part, if one follows, and closes the number. -/
def readScale (negative : Bool) (significand : Nat) (exponent : Int) (cs : List Char) :
    Option (Double × List Char) :=
  match cs with
  | 'e' :: rest => readExponent negative significand exponent rest
  | 'E' :: rest => readExponent negative significand exponent rest
  | _ => (realOf negative significand exponent).map (·, cs)

/-- Reads the fraction after its point; at least one digit must follow. -/
def readFraction (negative : Bool) (significand : Nat) (exponent : Int) (cs : List Char) :
    Option (Double × List Char) :=
  let (digits, rest) := spanDigits cs
  if digits.isEmpty then none
  else
    let (significand, unused) := accumulate significand digits
    readScale negative significand (exponent - ((digits.length - unused.length : Nat) : Int)) rest

/-- The digits of a number with no superfluous leading zero. -/
def wholeDigits (cs : List Char) : Option (List Char × List Char) :=
  match spanDigits cs with
  | ([], _) => none
  | (['0'], rest) => some (['0'], rest)
  | ('0' :: _ :: _, _) => none
  | (digits, rest) => some (digits, rest)

/-- Reads an unsigned number whose sign has been taken. -/
def readUnsigned (negative : Bool) (cs : List Char) : Option (Numeral × List Char) := do
  let (digits, rest) ← wholeDigits cs
  let (significand, unused) := accumulate 0 digits
  let exponent : Int := unused.length
  match rest with
  | '.' :: after =>
    let (value, rest) ← readFraction negative significand exponent after
    pure (.real value, rest)
  | _ =>
    if rest.head? = some 'e' || rest.head? = some 'E' || !unused.isEmpty then
      let (value, rest) ← readScale negative significand exponent rest
      pure (.real value, rest)
    else if !negative then pure (.whole significand, rest)
    else if significand = 0 then pure (.real (.finite true 0), rest)
    else if significand ≤ 0x8000000000000000 then pure (.whole (-(significand : Int)), rest)
    else pure (.real (Double.ofNat significand).neg, rest)

/-- Reads the number at the start of a text. -/
def read (cs : List Char) : Option (Numeral × List Char) :=
  match cs with
  | '-' :: rest => readUnsigned true rest
  | _ => readUnsigned false cs

/-! ## Form -/

/-- Passes over an exponent part, if one follows. -/
def skipScale (cs : List Char) : Option (List Char) :=
  match cs with
  | [] => some []
  | c :: rest =>
    if c = 'e' || c = 'E' then
      let (digits, rest) := match rest with
        | '+' :: rest => spanDigits rest
        | '-' :: rest => spanDigits rest
        | _ => spanDigits rest
      if digits.isEmpty then none else some rest
    else some cs

/-- Passes over the number at the start of a text, however large it is. -/
def skip (cs : List Char) : Option (List Char) := do
  let (_, rest) ← wholeDigits (if cs.head? = some '-' then cs.drop 1 else cs)
  match rest with
  | '.' :: after =>
    let (digits, rest) := spanDigits after
    if digits.isEmpty then none else skipScale rest
  | _ => skipScale rest

end Numeral

end CloudLifecycle

import CloudLifecycle.Json.Basic
import CloudLifecycle.Text.Digits
import CloudLifecycle.Yaml.Event

/-!
# What a scalar means

A plain scalar without a tag may be null, a boolean or a number, and is a text otherwise; a quoted
or block scalar is a text.  Whole numbers may have a base in front; a decimal number with a
superfluous zero in front is a text, as is a number beyond the largest double.  A standard tag
says what a scalar has to be.
-/

set_option autoImplicit false

namespace CloudLifecycle.Yaml

/-- Spellings of the absent value. -/
def isNull (text : String) : Bool := ["null", "Null", "NULL", "~"].contains text

/-- Reads a boolean. -/
def boolean? (text : String) : Option Bool :=
  if ["true", "True", "TRUE"].contains text then some true
  else if ["false", "False", "FALSE"].contains text then some false
  else none

/-! ### Whole numbers -/

/-- A sign in front, and the rest. -/
def splitSign : List Char → Option Char × List Char
  | '+' :: rest => (some '+', rest)
  | '-' :: rest => (some '-', rest)
  | cs => (none, cs)

/-- Digits with a superfluous zero in front. -/
def hasLeadingZero (cs : List Char) : Bool :=
  match (splitSign cs).2 with
  | '0' :: d :: rest => (d :: rest).all Char.isDigit
  | _ => false

/-- The value of digits that are not missing. -/
def digits? (base : Nat) (cs : List Char) : Option Nat :=
  if cs.isEmpty then none else Text.digitsValue? base cs

/-- The value of a number without a sign, which may have a base in front. -/
def magnitude? : List Char → Option Nat
  | '0' :: 'x' :: rest => digits? 16 rest
  | '0' :: 'o' :: rest => digits? 8 rest
  | '0' :: 'b' :: rest => digits? 2 rest
  | cs => digits? 10 cs

/-- Reads a whole number of any size. -/
def whole? (text : String) : Option Int :=
  let cs := text.toList
  if hasLeadingZero cs then none
  else match splitSign cs with
    | (some '-', rest) => (magnitude? rest).map fun n => -(n : Int)
    | (_, rest) => (magnitude? rest).map fun n => (n : Int)

/-- The number fits sixty-four bits, with or without a sign. -/
def fitsWord (i : Int) : Bool := -0x8000000000000000 ≤ i && i < 0x10000000000000000

/-- The number fits twice as many bits. -/
def fitsDoubleWord (i : Int) : Bool :=
  -0x80000000000000000000000000000000 ≤ i && i < 0x100000000000000000000000000000000

/-! ### Fractions -/

/-- Decimal digits around a point and the exponent behind them. -/
structure DecimalText where
  digits : List Char
  fractionLength : Nat
  exponent : Int
deriving DecidableEq, Repr

/-- Reads the exponent. -/
def exponent? : List Char → Option Int
  | [] => some 0
  | letter :: rest =>
    if letter = 'e' || letter = 'E' then
      match splitSign rest with
      | (some '-', ds) => if ds.all Char.isDigit then (digits? 10 ds).map (-·) else none
      | (_, ds) => if ds.all Char.isDigit then (digits? 10 ds).map (↑·) else none
    else none

/-- Reads a number without a sign; digits may be missing on one side of the point. -/
def decimal? (cs : List Char) : Option DecimalText :=
  let before := cs.takeWhile Char.isDigit
  let (fraction, rest) := match cs.dropWhile Char.isDigit with
    | '.' :: after => (after.takeWhile Char.isDigit, after.dropWhile Char.isDigit)
    | rest => ([], rest)
  if before.isEmpty && fraction.isEmpty then none
  else (exponent? rest).map fun e => ⟨before ++ fraction, fraction.length, e⟩

/-- The double of a number.  Numbers far beyond all doubles are not computed. -/
def DecimalText.value (d : DecimalText) (negative : Bool) : Double :=
  let digits := d.digits.dropWhile (· = '0')
  let shift := d.exponent - (d.fractionLength : Int)
  let size := shift + (digits.length : Int)
  let shift :=
    if size > 400 then 400 else if size < -400 then -800 - (digits.length : Int) else shift
  Double.ofDecimal negative ((Text.digitsValue? 10 digits).getD 0) shift

/-- Reads a double. -/
def fraction? (text : String) : Option Double :=
  match splitSign text.toList with
  | (some '-', cs) => (decimal? cs).map (·.value true)
  | (_, cs) => (decimal? cs).map (·.value false)

/-- Spellings of what is no finite number, for which there is no value. -/
def isNotFinite (text : String) : Bool :=
  [".inf", ".Inf", ".INF", "+.inf", "+.Inf", "+.INF", "-.inf", "-.Inf", "-.INF",
    ".nan", ".NaN", ".NAN"].contains text

/-- Reads a number that need not be whole. -/
def number? (text : String) : Option Json :=
  if isNotFinite text then some .null
  else ((fraction? text).filter Double.isFinite).map .real

/-- Reads a whole number; one that is too large has no value. -/
def wholeNumber? (text : String) : Option (Except YamlMisfit Json) :=
  (whole? text).bind fun i =>
    if fitsWord i then some (.ok (.whole i))
    else if fitsDoubleWord i then some (.error .numberOutOfRange)
    else none

/-- The value of a plain scalar without a tag. -/
def plainValue (text : String) : Except YamlMisfit Json :=
  if text.isEmpty || isNull text then .ok .null
  else match boolean? text with
    | some b => .ok (.bool b)
    | none => match wholeNumber? text with
      | some result => result
      | none =>
        if hasLeadingZero text.toList then .ok (.text text)
        else .ok ((number? text).getD (.text text))

/-! ### Tags -/

/-- The value of a scalar with a tag. -/
def taggedValue (tag : Tag) (text : String) : Except YamlMisfit Json :=
  let needs (value : Option (Except YamlMisfit Json)) (expected : String) :=
    value.getD (.error (.wrongText text expected))
  match tag with
  | .boolean => needs ((boolean? text).map fun b => .ok (.bool b)) "a boolean"
  | .integer => needs (wholeNumber? text) "an integer"
  | .float => needs ((number? text).map .ok) "a float"
  | .null => needs (if isNull text then some (.ok .null) else none) "null"
  | .foreign => .error .localTag
  | _ => .ok (.text text)

/-- The value of a scalar. -/
def scalarValue (tag : Option Tag) (text : String) (isPlain : Bool) : Except YamlMisfit Json :=
  match tag.filter (· ≠ .illegible) with
  | some tag => taggedValue tag text
  | none => if isPlain then plainValue text else .ok (.text text)

end CloudLifecycle.Yaml

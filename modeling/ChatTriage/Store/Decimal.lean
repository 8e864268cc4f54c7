import ChatTriage.Number.Extended
import ChatTriage.Number.Shortest
import ChatTriage.Text.Digit

/-!
# Decimals in tables

How a table reads a decimal number from a text and writes one into a text. Both go through extended
precision: about nineteen digits are read and the power of ten is one rounded number, and fifteen
digits are written, so that the results can lie beside the nearest number.
-/

namespace ChatTriage.Store

open Number

/-- A significand takes further digits as long as it lies below this bound, which keeps it within 63
bits. -/
def significandBound : Nat := 922337203685477579

/-- A significand after as many of the digits as it takes, and their number. -/
def takeDigits (significand : Nat) : List Char → Nat × Nat
  | [] => (significand, 0)
  | c :: rest =>
    if significand < significandBound then
      let (s, taken) := takeDigits (significand * 10 + (Text.digitValue? c).getD 0) rest
      (s, taken + 1)
    else (significand, 0)

/-- A significand with as much of a power of ten multiplied into it as it takes, and the power
left. -/
def raise (significand : Nat) : Nat → Nat × Nat
  | 0 => (significand, 0)
  | e + 1 =>
    if significandBound < significand then (significand, e + 1) else raise (significand * 10) e

/-- A significand with as much of a power of ten divided out of it as goes without a rest, and the
power left. -/
def lower (significand : Nat) : Nat → Nat × Nat
  | 0 => (significand, 0)
  | e + 1 => if significand % 10 = 0 then lower (significand / 10) e else (significand, e + 1)

/-- A power of ten above which numbers are divided in two steps. -/
def largestStep : Nat := 308

/-- The number for a significand times a power of ten. -/
def multiplied (negative : Bool) (significand exponent : Nat) : Double :=
  let (s, e) := raise significand exponent
  if largestStep ≤ e then .infinity negative
  else (Extended.ofNat s * .tenPow e).toDouble negative

/-- The number for a significand divided by a power of ten. -/
def divided (negative : Bool) (significand exponent : Nat) : Double :=
  let (s, e) := lower significand exponent
  if e < largestStep then (Extended.ofNat s / .tenPow e).toDouble negative
  else if e < 342 then
    let first := (Extended.ofNat s / .tenPow (e - largestStep)).toDouble negative
    first.divided (.ofDecimal false 1 largestStep)
  else .zero negative

/-- An exponent as it counts; one of more than five digits counts as ten thousand. -/
def effectiveExponent (exponent : Int) : Int :=
  if exponent.natAbs < 100000 then exponent
  else if exponent < 0 then -10000 else 10000

/-- The number that whole digits, digits of a fraction and an exponent write. -/
def readDecimal (negative : Bool) (whole fraction : List Char) (exponent : Int) : Double :=
  let (s, taken) := takeDigits 0 whole
  let (s, more) := takeDigits s fraction
  let exponent := effectiveExponent exponent + (whole.length - taken : Nat) - (more : Nat)
  if s = 0 then .zero negative
  else if exponent < 0 then divided negative s exponent.natAbs
  else multiplied negative s exponent.toNat

/-- The digits that are written. -/
def writtenDigits : Nat := 15

/-- What is added to a number between one and ten before its digits are cut: half a unit of the last
one, as near as a 64-bit number that is a product of others comes to it. -/
def halfUnit : Extended := .ofDouble (.ofDecimal false 5000000000000001 (-30))

/-- A power of ten as the 64-bit number nearest to it. -/
def roundedTenPow (exponent : Int) : Extended :=
  .ofDouble (.ofDecimal false 1 exponent)

/-- Multiplies a scale by a power of ten as long as a number is not below the product; gives the
scale and its exponent. `fuel` bounds the steps. -/
def climb (x : Extended) (step : Nat) : Nat → Extended × Int → Extended × Int
  | 0, found => found
  | fuel + 1, (scale, lead) =>
    let next := roundedTenPow step * scale
    if x.less next then (scale, lead) else climb x step fuel (next, lead + step)

/-- Multiplies a number by a power of ten as long as it lies below a bound; gives the number and its
exponent. `fuel` bounds the steps. -/
def ascend (bound : Extended) (step : Nat) : Nat → Extended × Int → Extended × Int
  | 0, found => found
  | fuel + 1, (x, lead) =>
    if x.less bound then ascend bound step fuel (x * roundedTenPow step, lead - step) else (x, lead)

/-- A number between one and ten, and the exponent of ten, that make up a number. -/
def normalized (x : Extended) : Extended × Int :=
  let (scale, lead) := climb x 1 350 (climb x 10 350 (climb x 100 350 (.ofNat 1, 0)))
  ascend (.ofNat 1) 1 350 (ascend (roundedTenPow (-8)) 8 350 (x / scale, lead))

/-- The first decimal digits of a number below ten. -/
def leadingDigits (x : Extended) : Nat → List Char
  | 0 => []
  | n + 1 => Nat.digitChar x.whole :: leadingDigits (x.remainder * .ofNat 10) n

/-- The digits of a number that is not zero, without trailing zeros, and the exponent of the leading
one. -/
def decimalDigits (x : Extended) : List Char × Int :=
  let (x, lead) := normalized x
  let x := x + halfUnit
  let (x, lead) := if x.less (.ofNat 10) then (x, lead) else (x * roundedTenPow (-1), lead + 1)
  (((leadingDigits x writtenDigits).reverse.dropWhile (· = '0')).reverse, lead)

/-- Numbers in tables are written out below ten to the fifteenth, and always have a fractional
part. -/
def decimalLayout : Layout := ⟨15, true⟩

/-- The text of a number. The zeros have no sign. -/
def writeDecimal (x : Double) : String :=
  if x.isZero then "0.0"
  else
    let sign := if x.negative then "-" else ""
    if x.isInfinite then sign ++ "Inf"
    else
      let (digits, lead) := decimalDigits (.ofDouble x)
      sign ++ decimalLayout.write digits lead

end ChatTriage.Store

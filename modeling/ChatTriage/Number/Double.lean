/-!
# Binary floating point

A binary format holds the multiples of powers of two with a bounded significand;
`BinaryFormat.nearest` finds the one nearest to a quotient. A number of the 64-bit format is kept as
its bits and read with exact integer arithmetic: the nearest number to a decimal, the whole part of
a number, and comparison with whole numbers.
-/

namespace ChatTriage

namespace Number

/-- A power of two. -/
def twoPow (n : Nat) : Nat := Nat.pow 2 n

/-- A power of ten. -/
def tenPow (n : Nat) : Nat := Nat.pow 10 n

/-- A whole number lies in the range of a signed word with one more than a number of bits. -/
def inSignedWord (bits : Nat) (n : Int) : Bool :=
  -(twoPow bits : Int) ≤ n && n < (twoPow bits : Int)

/-- A binary format: the bits of a significand, and the exponent of the smallest unit. -/
structure BinaryFormat where
  precision : Nat
  least : Int
  deriving DecidableEq, Repr

/-- The significand and the exponent of the number of a format nearest to `num / den`, a half to the
even neighbour. Neither `num` nor `den` is zero. -/
def BinaryFormat.nearest (f : BinaryFormat) (num den : Nat) : Nat × Int :=
  -- `num / den` lies strictly between two neighbouring powers of two around `2 ^ lead`
  let lead : Int := (Nat.log2 num : Int) - Nat.log2 den
  let below : Int := max (lead - f.precision) f.least
  let quotient (q : Int) : Nat × Nat × Nat :=
    let n := num * twoPow (-q).toNat
    let d := den * twoPow q.toNat
    (n / d, n % d, d)
  let q := if (quotient below).1 < twoPow f.precision then below else below + 1
  let (m, r, d) := quotient q
  let rounded := if d < 2 * r || (2 * r = d && m % 2 = 1) then m + 1 else m
  if rounded = twoPow f.precision then (twoPow (f.precision - 1), q + 1) else (rounded, q)

end Number

/-- A number of the 64-bit binary floating-point format, as its bits. -/
structure Double where
  bits : UInt64
  deriving DecidableEq, Repr

open Number

namespace Double

/-- The sign bit. -/
def negative (x : Double) : Bool :=
  x.bits.toNat / twoPow 63 = 1

/-- The biased exponent. -/
def exponentField (x : Double) : Nat :=
  x.bits.toNat / twoPow 52 % twoPow 11

/-- The fraction bits. -/
def fraction (x : Double) : Nat :=
  x.bits.toNat % twoPow 52

def isNaN (x : Double) : Bool :=
  x.exponentField = 2047 && x.fraction ≠ 0

def isInfinite (x : Double) : Bool :=
  x.exponentField = 2047 && x.fraction = 0

/-- Both zeros. -/
def isZero (x : Double) : Bool :=
  x.exponentField = 0 && x.fraction = 0

/-- The magnitude of a finite number is `significand * 2 ^ (scale - 1075)`. -/
def significand (x : Double) : Nat :=
  if x.exponentField = 0 then x.fraction else x.fraction + twoPow 52

/-- The exponent of the significand's unit, plus 1075. -/
def scale (x : Double) : Nat :=
  if x.exponentField = 0 then 1 else x.exponentField

/-- The number with the given sign bit, biased exponent and fraction. -/
def ofFields (negative : Bool) (exponentField fraction : Nat) : Double :=
  ⟨UInt64.ofNat ((if negative then twoPow 63 else 0) + exponentField * twoPow 52 + fraction)⟩

def zero (negative : Bool) : Double :=
  ofFields negative 0 0

def infinity (negative : Bool) : Double :=
  ofFields negative 2047 0

def nan : Double :=
  ofFields false 2047 (twoPow 51)

/-- The format, as far as its significands and units go. -/
def format : BinaryFormat := ⟨53, -1074⟩

/-- The number nearest to `num / den`, a half to the even neighbour. -/
def ofRatio (negative : Bool) (num den : Nat) : Double :=
  if num = 0 || den = 0 then zero negative
  else
    let (m, q) := format.nearest num den
    if 971 < q then infinity negative
    else if m < twoPow 52 then ofFields negative 0 m
    else ofFields negative (q + 1075).toNat (m - twoPow 52)

/-- The number nearest to `digits * 10 ^ exponent`. Exponents far outside the format are decided
before any power is taken. -/
def ofDecimal (negative : Bool) (digits : Nat) (exponent : Int) : Double :=
  let size : Int := (Nat.toDigits 10 digits).length
  if digits = 0 then zero negative
  else if 400 < exponent + size then infinity negative
  else if exponent + size < -400 then zero negative
  else ofRatio negative (digits * tenPow exponent.toNat) (tenPow (-exponent).toNat)

/-- The whole part of a finite number, toward zero. -/
def truncate (x : Double) : Int :=
  let magnitude :=
    if 1075 ≤ x.scale then x.significand * twoPow (x.scale - 1075)
    else x.significand / twoPow (1075 - x.scale)
  if x.negative then -magnitude else magnitude

/-- A finite number without a fractional part. -/
def isWhole (x : Double) : Bool :=
  !x.isNaN && !x.isInfinite && (1075 ≤ x.scale || x.significand % twoPow (1075 - x.scale) = 0)

/-- Equality of a number with a whole number. -/
def equalsInt (x : Double) (n : Int) : Bool :=
  x.isWhole && x.truncate = n

/-- The number nearest to a number plus one. -/
def plusOne (x : Double) : Double :=
  if x.isNaN || x.isInfinite then x
  else
    let unit := twoPow (1075 - x.scale)
    let magnitude : Int := x.significand * twoPow (x.scale - 1075)
    let sum : Int := (if x.negative then -magnitude else magnitude) + unit
    ofRatio (sum < 0) sum.natAbs unit

/-- The number nearest to the quotient of two finite numbers. -/
def divided (x y : Double) : Double :=
  ofRatio (x.negative != y.negative) (x.significand * twoPow (x.scale - y.scale))
    (y.significand * twoPow (y.scale - x.scale))

/-- Numeric equality: the zeros are equal, and nothing is equal to what is not a number. -/
def same (x y : Double) : Bool :=
  !x.isNaN && !y.isNaN && (x = y || (x.isZero && y.isZero))

end Double

end ChatTriage

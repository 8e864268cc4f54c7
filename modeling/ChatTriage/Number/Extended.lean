import ChatTriage.Number.Double

/-!
# Extended precision

Numbers of the binary format with 64 bits in the significand, in which longer calculations on 64-bit
numbers are carried out. Signs are kept apart: every number here is a magnitude. Each operation
gives the number nearest to its exact result.
-/

namespace ChatTriage

/-- The number `significand * 2 ^ exponent`. -/
structure Extended where
  significand : Nat
  exponent : Int
  deriving DecidableEq, Repr

namespace Extended

open Number

/-- The format of these numbers. -/
def format : BinaryFormat := ⟨64, -16445⟩

/-- The number nearest to `num / den * 2 ^ exponent`. -/
def ofRatio (num den : Nat) (exponent : Int) : Extended :=
  if num = 0 || den = 0 then ⟨0, 0⟩
  else
    let (significand, exponent) :=
      format.nearest (num * twoPow exponent.toNat) (den * twoPow (-exponent).toNat)
    ⟨significand, exponent⟩

/-- The number nearest to a whole number. -/
def ofNat (n : Nat) : Extended :=
  ofRatio n 1 0

/-- The magnitude of a 64-bit number, which is exact. -/
def ofDouble (x : Double) : Extended :=
  ⟨x.significand, (x.scale : Int) - 1075⟩

/-- The 64-bit number nearest to a number. -/
def toDouble (negative : Bool) (x : Extended) : Double :=
  .ofRatio negative (x.significand * twoPow x.exponent.toNat) (twoPow (-x.exponent).toNat)

/-- How many units of a smaller exponent a number has. -/
def unitsAt (x : Extended) (exponent : Int) : Nat :=
  x.significand * twoPow (x.exponent - exponent).toNat

def add (x y : Extended) : Extended :=
  let exponent := min x.exponent y.exponent
  ofRatio (x.unitsAt exponent + y.unitsAt exponent) 1 exponent

def mul (x y : Extended) : Extended :=
  ofRatio (x.significand * y.significand) 1 (x.exponent + y.exponent)

def div (x y : Extended) : Extended :=
  ofRatio x.significand y.significand (x.exponent - y.exponent)

instance : Add Extended := ⟨add⟩

instance : Mul Extended := ⟨mul⟩

instance : Div Extended := ⟨div⟩

/-- One number is less than another. -/
def less (x y : Extended) : Bool :=
  let exponent := min x.exponent y.exponent
  x.unitsAt exponent < y.unitsAt exponent

/-- The whole part of a number. -/
def whole (x : Extended) : Nat :=
  x.significand * twoPow x.exponent.toNat / twoPow (-x.exponent).toNat

/-- What is left of a number without its whole part. -/
def remainder (x : Extended) : Extended :=
  ⟨x.significand % twoPow (-x.exponent).toNat, x.exponent⟩

/-- A product of `result` and a power of `base`, by repeated squaring; `fuel` bounds the
squarings. -/
def powFrom (result base : Extended) : Nat → Nat → Extended
  | 0, _ => result
  | fuel + 1, n =>
    let result := if n % 2 = 1 then result * base else result
    if n < 2 then result else powFrom result (base * base) fuel (n / 2)

/-- A power of ten. -/
def tenPow (n : Nat) : Extended :=
  powFrom (ofNat 1) (ofNat 10) (n + 1) n

end Extended

end ChatTriage

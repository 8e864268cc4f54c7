import ChatTriage.Number.Double

/-!
# Decimals as texts

How decimal digits and an exponent are written: small exponents are written out, others with a mark.
The digits of a binary number are the fewest that read back as the same number, and of those the
nearest. For each digit count the two neighbours of the number on that decimal grid are tried
against the interval of reals that round to it.
-/

namespace ChatTriage

namespace Number

/-- A way to write decimals: the exponents below `bound` are written out, as far as -4, and before
an exponent mark there is always a fractional part if `pointed`. -/
structure Layout where
  bound : Int
  pointed : Bool
  deriving DecidableEq, Repr

/-- The text of digits of which the leading one stands at a decimal exponent. A number that is
written out always has a fractional part. -/
def Layout.write (l : Layout) (digits : List Char) (lead : Int) : String :=
  if -4 ≤ lead && lead < l.bound then
    if lead < 0 then
      "0." ++ String.ofList (List.replicate (-lead - 1).toNat '0' ++ digits)
    else
      let whole := lead.toNat + 1
      let padded := digits ++ List.replicate (whole - digits.length) '0'
      let fraction := padded.drop whole
      String.ofList (padded.take whole) ++ "." ++
        (if fraction.isEmpty then "0" else String.ofList fraction)
  else
    let mantissa := match digits with
      | d :: [] => d.toString ++ (if l.pointed then ".0" else "")
      | d :: rest => d.toString ++ "." ++ String.ofList rest
      | [] => ""
    let size := toString lead.natAbs
    mantissa ++ "e" ++ (if lead < 0 then "-" else "+") ++
      (if size.length < 2 then "0" ++ size else size)

end Number

namespace Double

open Number

/-- The exponent of the leading decimal digit of `num / den`. -/
def leadingExponent (num den : Nat) : Int :=
  let size (n : Nat) : Nat := (Nat.toDigits 10 n).length
  if den ≤ num then (size (num / den) : Int) - 1
  else
    let s := size den - size num
    if den ≤ num * tenPow s then -(s : Int) else -(s + 1 : Int)

/-- The rounding interval of a finite non-zero number and the number itself, as numerators over one
denominator: low end, number, high end, denominator. -/
def interval (x : Double) : Nat × Nat × Nat × Nat :=
  let m := x.significand
  let half := if m = twoPow 52 && 1 < x.scale then 1 else 2
  let up := twoPow (x.scale - 1077)
  (((4 * m - half) * up), (4 * m * up), ((4 * m + 2) * up), twoPow (1077 - x.scale))

/-- The point of the grid with the given digit count that rounds back to the number and lies nearest
to it: the digits as a whole number, and the exponent of the last one. -/
def gridPoint? (x : Double) (count : Nat) : Option (Nat × Int) :=
  let (low, value, high, den) := x.interval
  let unit := leadingExponent value den - count + 1
  -- compare over the denominator `den * 10 ^ (-unit)`
  let scaleUp := tenPow (-unit).toNat
  let step := den * tenPow unit.toNat
  let below := value * scaleUp / step
  let inside (c : Nat) : Bool :=
    let point := c * step
    if x.significand % 2 = 0 then low * scaleUp ≤ point && point ≤ high * scaleUp
    else low * scaleUp < point && point < high * scaleUp
  let distance (c : Nat) : Nat :=
    let point := c * step
    let v := value * scaleUp
    if v ≤ point then point - v else v - point
  match inside below, inside (below + 1) with
  | false, false => none
  | true, false => some (below, unit)
  | false, true => some (below + 1, unit)
  | true, true =>
    if distance below < distance (below + 1) then some (below, unit)
    else if distance (below + 1) < distance below then some (below + 1, unit)
    else some (if below % 2 = 0 then below else below + 1, unit)

/-- The shortest digits of a finite non-zero number and the exponent of the leading one. -/
def shortest (x : Double) : List Char × Int :=
  match (List.range 17).findSome? fun i => x.gridPoint? (i + 1) with
  | some (digits, unit) =>
    let cs := Nat.toDigits 10 digits
    (((cs.reverse.dropWhile (· = '0')).reverse), unit + cs.length - 1)
  | none => ([], 0)

/-- Numbers are written out below ten to the sixteenth. -/
def layout : Layout := ⟨16, false⟩

/-- The text of a number: the shortest that reads back. -/
def text (x : Double) : String :=
  if x.isNaN then "nan"
  else
    let sign := if x.negative then "-" else ""
    if x.isInfinite then sign ++ "inf"
    else if x.isZero then sign ++ "0.0"
    else
      let (digits, lead) := x.shortest
      sign ++ layout.write digits lead

end Double

end ChatTriage

import ChatTriage.Text.Blank
import ChatTriage.Text.Digit
import ChatTriage.Text.Quoted

/-!
# Whole numbers in texts

A whole number may stand between blanks, carry a sign, use the decimal digits of any script, and
have single underscores between its digits. The information separators are not blanks here. A text
with more than `maxDigits` digits is refused before anything after the digits is looked at.
-/

namespace ChatTriage.Number

/-- Why a text is no whole number. -/
inductive IntegerFault where
  | invalid (text : String)
  | tooLong (digits : Nat)
  deriving DecidableEq, Repr

/-- The most digits that are read, and that are written. -/
def maxDigits : Nat := 4300

/-- The wording of a fault; a long text is cut. -/
def IntegerFault.message : IntegerFault → String
  | .invalid text =>
    "invalid literal for int() with base 10: " ++ String.ofList ((Text.quoted text).toList.take 200)
  | .tooLong digits =>
    "Exceeds the limit (" ++ toString maxDigits ++
      " digits) for integer string conversion: value has " ++
      toString digits ++ " digits; use sys.set_int_max_str_digits() to increase the limit"

/-- A blank that may surround a number. -/
def isNumberBlank (c : Char) : Bool :=
  Text.isBlank c && !(0x1c ≤ c.toNat && c.toNat ≤ 0x1f)

/-- The text without the blanks around a number. -/
def trimNumber (cs : List Char) : List Char :=
  ((cs.dropWhile isNumberBlank).reverse.dropWhile isNumberBlank).reverse

/-- The sign of a number and what follows it. -/
def signed : List Char → Bool × List Char
  | '-' :: rest => (true, rest)
  | '+' :: rest => (false, rest)
  | cs => (false, cs)

/-- A character of the digit part. -/
def isDigitOrMark (c : Char) : Bool :=
  Text.isDecimal c || c = '_'

/-- Every underscore stands between two digits, `afterDigit` telling whether a digit came just
before the text. -/
def separated (afterDigit : Bool) : List Char → Bool
  | [] => afterDigit
  | c :: rest => if c = '_' then afterDigit && separated false rest else separated true rest

/-- The value of some digits after `value`; other characters are skipped. -/
def digitsFrom (value : Nat) : List Char → Nat
  | [] => value
  | c :: rest =>
    match Text.digitValue? c with
    | some d => digitsFrom (value * 10 + d) rest
    | none => digitsFrom value rest

/-- The whole number that a text writes. -/
def readInteger (text : String) : Except IntegerFault Int :=
  let (negative, body) := signed (trimNumber text.toList)
  let digits := body.takeWhile isDigitOrMark
  let count := (digits.filter Text.isDecimal).length
  if !separated false digits then .error (.invalid text)
  else if maxDigits < count then .error (.tooLong count)
  else if digits.length < body.length then .error (.invalid text)
  else
    let magnitude := digitsFrom 0 digits
    .ok (if negative then -magnitude else magnitude)

end ChatTriage.Number

import ChatTriage.Json.Query
import ChatTriage.Text.Blank
import ChatTriage.Text.Digit

/-!
# Phone numbers

Numbers are compared by their digits alone and written as a plus sign and at least seven digits. The
digits of every script count. An allow-list holds the digits of the numbers it was made from; a
number without digits is on no list.
-/

namespace ChatTriage.Phone

/-- The digits of a text. -/
def digitsOf (s : String) : String :=
  String.ofList (s.toList.filter Text.isDecimal)

/-- The digits of a value, none for a missing one. -/
def digits (raw : Json) : String :=
  match raw with
  | .null => ""
  | raw => digitsOf raw.shown

/-- The numbers that may give commands, by their digits. -/
structure AllowList where
  numbers : List String
  deriving DecidableEq, Repr

/-- Each entry once, in the order of first appearance. -/
def distinct {α : Type} [BEq α] (xs : List α) : List α :=
  xs.foldl (fun seen x => if seen.contains x then seen else seen ++ [x]) []

/-- The list of the numbers that have digits. -/
def AllowList.of (numbers : List Json) : AllowList :=
  ⟨distinct ((numbers.map digits).filter fun d => !d.isEmpty)⟩

/-- A number has digits and they are on the list. -/
def AllowList.allows (list : AllowList) (number : Json) : Bool :=
  let d := digits number
  !d.isEmpty && list.numbers.contains d

/-- The fewest digits of a number that can be dialled. -/
def minDigits : Nat := 7

/-- The characters that can belong to a number. -/
def isDialled (c : Char) : Bool :=
  Text.isDecimal c || c = '+'

/-- The number in the form in which it is dialled: a plus sign and the digits. -/
def format (raw : Json) : Except Fault String :=
  let kept := if raw.truthy then raw.shown.toList.filter isDialled else []
  let body := match kept with
    | '+' :: rest => rest
    | cs => cs
  if body.isEmpty || !body.all Text.isDigitSign then .error (.value (.phoneCharacters raw))
  else if body.length < minDigits then .error (.value (.phoneTooShort raw))
  else .ok (String.ofList ('+' :: body))

end ChatTriage.Phone

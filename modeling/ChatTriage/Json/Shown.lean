import ChatTriage.Json
import ChatTriage.Number.Integer
import ChatTriage.Number.Shortest
import ChatTriage.Text.Quoted

/-!
# Values inside sentences

How a value stands in a message to an operator: a text as it is, everything else in the notation of
diagnostics, where the texts inside lists and objects are quoted.
-/

namespace ChatTriage.Json

mutual

/-- A value in the notation of diagnostics. -/
def quoted : Json → String
  | .null => "None"
  | .bool true => "True"
  | .bool false => "False"
  | .int n => toString n
  | .float x => x.text
  | .str s => Text.quoted s
  | .arr items => "[" ++ quotedItems items ++ "]"
  | .obj fields => "\x7b" ++ quotedFields fields ++ "\x7d"

/-- Items in the notation of diagnostics. -/
def quotedItems : List Json → String
  | [] => ""
  | x :: [] => quoted x
  | x :: y :: rest => quoted x ++ ", " ++ quotedItems (y :: rest)

/-- Fields in the notation of diagnostics. -/
def quotedFields : List (String × Json) → String
  | [] => ""
  | (k, x) :: [] => Text.quoted k ++ ": " ++ quoted x
  | (k, x) :: f :: rest => Text.quoted k ++ ": " ++ quoted x ++ ", " ++ quotedFields (f :: rest)

end

/-- A value as it stands in a sentence. -/
def shown : Json → String
  | .str s => s
  | x => quoted x

/-- A text is shown as it is. -/
@[simp] theorem shown_str (s : String) : shown (.str s) = s := rfl

mutual

/-- Every whole number in a value has no more digits than are written. -/
def writable : Json → Bool
  | .int n => (Nat.toDigits 10 n.natAbs).length ≤ Number.maxDigits
  | .arr items => writableItems items
  | .obj fields => writableFields fields
  | _ => true

/-- `writable`, for all items. -/
def writableItems : List Json → Bool
  | [] => true
  | x :: rest => writable x && writableItems rest

/-- `writable`, for the values of all fields. -/
def writableFields : List (String × Json) → Bool
  | [] => true
  | (_, x) :: rest => writable x && writableFields rest

end

end ChatTriage.Json

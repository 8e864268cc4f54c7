import ChatTriage.Json
import ChatTriage.Number.Shortest
import ChatTriage.Text.CodePoint
import ChatTriage.Text.Quoted

/-!
# Writing JSON

Compact JSON on one line with a blank after each comma and colon. A charset says whether characters
beyond ASCII are written as they are or as escapes of their UTF-16 units.
-/

namespace ChatTriage.Json

/-- Which characters stand in the text as they are. -/
inductive Charset where
  | ascii
  | unicode
  deriving DecidableEq, Repr

/-- The escape of one UTF-16 unit. -/
def unitEscape (n : Nat) : List Char :=
  '\\' :: 'u' :: (Text.hexPadded 4 n).toList

/-- The escapes of a code point beyond the short ones. -/
def longEscape (point : Nat) : List Char :=
  if point < 0x10000 then unitEscape point
  else
    let n := point - 0x10000
    unitEscape (0xd800 + n / 0x400) ++ unitEscape (0xdc00 + n % 0x400)

/-- A character inside a written text. -/
def charText (charset : Charset) (c : Char) : List Char :=
  if c = '"' then ['\\', '"']
  else if c = '\\' then ['\\', '\\']
  else if c = '\n' then ['\\', 'n']
  else if c = '\r' then ['\\', 'r']
  else if c = '\t' then ['\\', 't']
  else if c = '\x08' then ['\\', 'b']
  else if c = '\x0c' then ['\\', 'f']
  else if c.toNat < 0x20 then longEscape c.toNat
  else if charset = .ascii && 0x7f ≤ c.toNat then longEscape c.toNat
  else [c]

/-- A code point inside a written text, given by its spelling. -/
def pointText (charset : Charset) : List Char → List Char
  | c :: [] => charText charset c
  | spelled => if charset = .ascii then longEscape (Text.point spelled) else spelled

/-- A written text, with its quotes. -/
def stringText (charset : Charset) (s : String) : List Char :=
  '"' :: ((Text.spellings s.toList).flatMap (pointText charset) ++ ['"'])

/-- A written binary number. -/
def floatText (x : Double) : String :=
  if x.isNaN then "NaN"
  else if x.isInfinite then (if x.negative then "-Infinity" else "Infinity")
  else x.text

mutual

/-- The characters of a written value. -/
def chars (charset : Charset) : Json → List Char
  | .null => "null".toList
  | .bool true => "true".toList
  | .bool false => "false".toList
  | .int n => (toString n).toList
  | .float x => (floatText x).toList
  | .str s => stringText charset s
  | .arr items => '[' :: (itemChars charset items ++ [']'])
  | .obj fields => '\x7b' :: (fieldChars charset fields ++ ['\x7d'])

/-- The characters of written items. -/
def itemChars (charset : Charset) : List Json → List Char
  | [] => []
  | x :: [] => chars charset x
  | x :: y :: rest => chars charset x ++ (',' :: ' ' :: itemChars charset (y :: rest))

/-- The characters of written fields. -/
def fieldChars (charset : Charset) : List (String × Json) → List Char
  | [] => []
  | (k, x) :: [] => stringText charset k ++ (':' :: ' ' :: chars charset x)
  | (k, x) :: f :: rest =>
    stringText charset k ++ (':' :: ' ' :: chars charset x) ++
      (',' :: ' ' :: fieldChars charset (f :: rest))

end

/-- A value as text. -/
def write (charset : Charset) (value : Json) : String :=
  String.ofList (chars charset value)

mutual

/-- A value can be encoded: its texts can, the keys of its objects among them. -/
def encodable : Json → Bool
  | .str s => Text.encodable s
  | .arr items => encodableItems items
  | .obj fields => encodableFields fields
  | _ => true

/-- All items can be encoded. -/
def encodableItems : List Json → Bool
  | [] => true
  | x :: items => encodable x && encodableItems items

/-- All fields can be encoded. -/
def encodableFields : List (String × Json) → Bool
  | [] => true
  | (k, x) :: fields => Text.encodable k && encodable x && encodableFields fields

end

end ChatTriage.Json

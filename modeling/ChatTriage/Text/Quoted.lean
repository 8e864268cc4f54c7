import ChatTriage.Text.Blank
import ChatTriage.Text.CodePoint
import ChatTriage.Text.PrintableTable

/-!
# Quoted texts

A text between quotes as diagnostics show it: single quotes unless the text holds a single and no
double one, the usual short escapes, and a code point in hexadecimal for what cannot be shown.
-/

namespace ChatTriage.Text

/-- A character that is shown as itself. -/
def isPrintable (c : Char) : Bool :=
  if c.toNat < 0x7f then 0x20 ≤ c.toNat else !inRanges unprintableEdges c.toNat

/-- The lower-case hexadecimal digits of a number, padded with zeros to a width. -/
def hexPadded (width n : Nat) : String :=
  let digits := Nat.toDigits 16 n
  String.ofList (List.replicate (width - digits.length) '0' ++ digits)

/-- The escape of a code point that cannot be shown. -/
def pointEscape (point : Nat) : String :=
  if point < 0x100 then "\\x" ++ hexPadded 2 point
  else if point < 0x10000 then "\\u" ++ hexPadded 4 point
  else "\\U" ++ hexPadded 8 point

/-- How one character stands between the given quotes. -/
def quotedChar (quote c : Char) : String :=
  if c = quote || c = '\\' then "\\" ++ c.toString
  else if c = '\n' then "\\n"
  else if c = '\r' then "\\r"
  else if c = '\t' then "\\t"
  else if isPrintable c then c.toString
  else pointEscape c.toNat

/-- How one code point stands between the given quotes. -/
def quotedPoint (quote : Char) : List Char → String
  | c :: [] => quotedChar quote c
  | spelled => pointEscape (point spelled)

/-- The quote that a text is put between. -/
def quoteFor (s : String) : Char :=
  if s.toList.contains '\'' && !s.toList.contains '"' then '"' else '\''

/-- The text between quotes, with escapes. -/
def quoted (s : String) : String :=
  let quote := quoteFor s
  quote.toString ++ String.join ((spellings s.toList).map (quotedPoint quote)) ++ quote.toString

end ChatTriage.Text

import ChatTriage.Json
import ChatTriage.Number.Integer
import ChatTriage.Text.CodePoint

/-!
# Reading JSON

One value between blanks. Besides the standard's texts, `NaN`, `Infinity` and `-Infinity` are read
as numbers, and a repeated name keeps its first place with the last value. A refusal names its cause
and the place, counted in characters, lines and columns. Lists and objects may stand in each other
up to a certain depth; a text that goes deeper is not read to its end and may be a JSON value or
not.
-/

namespace ChatTriage.Json

/-- What other values stand in. -/
inductive Container where
  | array
  | object
  deriving DecidableEq, Repr

/-- The word for a container. -/
def Container.name : Container → String
  | .array => "array"
  | .object => "object"

/-- How deep lists and objects may stand in each other. -/
def maxDepth : Nat := 988

/-- Why a text is not read as a JSON value. -/
inductive Cause where
  | expectingValue
  | expectingName
  | expectingColon
  | expectingComma
  | unterminated
  | controlCharacter
  | invalidEscape
  | invalidUnitEscape
  | extraData
  | byteOrderMark
  | numberTooLong (digits : Nat)
  | tooDeep (container : Container)
  deriving DecidableEq, Repr

/-- The wording of a cause, its place apart. -/
def Cause.message : Cause → String
  | .expectingValue => "Expecting value"
  | .expectingName => "Expecting property name enclosed in double quotes"
  | .expectingColon => "Expecting ':' delimiter"
  | .expectingComma => "Expecting ',' delimiter"
  | .unterminated => "Unterminated string starting at"
  | .controlCharacter => "Invalid control character at"
  | .invalidEscape => "Invalid \\escape"
  | .invalidUnitEscape => "Invalid \\uXXXX escape"
  | .extraData => "Extra data"
  | .byteOrderMark => "Unexpected UTF-8 BOM (decode using utf-8-sig)"
  | .numberTooLong digits => (Number.IntegerFault.tooLong digits).message
  | .tooDeep container =>
    "maximum recursion depth exceeded while decoding a JSON " ++ container.name ++
      " from a unicode string"

/-- A cause and how many characters were left where it arose. -/
structure Stop where
  cause : Cause
  left : Nat
  deriving DecidableEq, Repr

/-- Why and where a text was refused. -/
structure Refusal where
  cause : Cause
  position : Nat
  line : Nat
  column : Nat
  deriving DecidableEq, Repr

/-- The wording of a refusal. -/
def Refusal.message (r : Refusal) : String :=
  match r.cause with
  | .numberTooLong _ | .tooDeep _ => r.cause.message
  | cause => cause.message ++ ": line " ++ toString r.line ++ " column " ++ toString r.column ++
      " (char " ++ toString r.position ++ ")"

/-- The text was refused for its depth, which tells nothing about whether it is well formed. -/
def Refusal.isTooDeep (r : Refusal) : Bool :=
  match r.cause with
  | .tooDeep _ => true
  | _ => false

/-- The refusal after a number of characters of a text. -/
def Refusal.at (cause : Cause) (text : List Char) (position : Nat) : Refusal :=
  let before := text.take position
  { cause
    position := Text.size before
    line := before.count '\n' + 1
    column := Text.size (before.reverse.takeWhile (· ≠ '\n')).reverse + 1 }

/-- A blank between tokens. -/
def isSpace (c : Char) : Bool :=
  c = ' ' || c = '\t' || c = '\n' || c = '\r'

/-- The text from the next token on. -/
def skipSpace (cs : List Char) : List Char :=
  cs.dropWhile isSpace

/-- The value of a hexadecimal digit. -/
def hexValue? (c : Char) : Option Nat :=
  if '0' ≤ c && c ≤ '9' then some (c.toNat - 48)
  else if 'a' ≤ c && c ≤ 'f' then some (c.toNat - 87)
  else if 'A' ≤ c && c ≤ 'F' then some (c.toNat - 55)
  else none

/-- Four hexadecimal digits that are followed by something. -/
def unit? : List Char → Option (Nat × List Char)
  | a :: b :: c :: d :: e :: rest => do
    let a ← hexValue? a
    let b ← hexValue? b
    let c ← hexValue? c
    let d ← hexValue? d
    pure (((a * 16 + b) * 16 + c) * 16 + d, e :: rest)
  | _ => none

/-- The character of a short escape. -/
def shortEscape? (c : Char) : Option Char :=
  match c with
  | '"' => some '"'
  | '\\' => some '\\'
  | '/' => some '/'
  | 'b' => some '\x08'
  | 'f' => some '\x0c'
  | 'n' => some '\n'
  | 'r' => some '\r'
  | 't' => some '\t'
  | _ => none

/-- Joins a high unit with the low one of an escape that follows it: the code point and the rest. A
unit without a partner stands for itself. -/
def joinUnits (unit : Nat) (rest : List Char) : Except Stop (Nat × List Char) :=
  if 0xd800 ≤ unit && unit < 0xdc00 then
    match rest with
    | '\\' :: 'u' :: after =>
      if Text.size after < 5 then .ok (unit, rest)
      else match unit? after with
        | none => .error ⟨.invalidUnitEscape, after.length + 1⟩
        | some (low, after) =>
          if 0xdc00 ≤ low && low < 0xe000 then
            .ok (0x10000 + (unit - 0xd800) * 0x400 + (low - 0xdc00), after)
          else .ok (unit, rest)
    | _ => .ok (unit, rest)
  else .ok (unit, rest)

/-- What follows a backslash: the code point meant and the rest. `start` is what was left at the
opening quote. -/
def escaped (start : Nat) : List Char → Except Stop (Nat × List Char)
  | [] => .error ⟨.unterminated, start⟩
  | 'u' :: rest =>
    match unit? rest with
    | none => .error ⟨.invalidUnitEscape, rest.length + 1⟩
    | some (unit, rest) => joinUnits unit rest
  | c :: rest =>
    match shortEscape? c with
    | some c => .ok (c.toNat, rest)
    | none => .error ⟨.invalidEscape, rest.length + 2⟩

/-- The characters of a text up to its closing quote, and what follows it. `start` is what was left
at the opening quote, `read` the characters read so far, in reverse, and `fuel` bounds their
number. -/
def stringFrom (start : Nat) (read : List Char) : Nat → List Char →
    Except Stop (String × List Char)
  | _, [] => .error ⟨.unterminated, start⟩
  | 0, _ :: _ => .error ⟨.unterminated, start⟩
  | fuel + 1, c :: rest =>
    if c = '"' then .ok (String.ofList read.reverse, rest)
    else if c = '\\' then do
      let (point, rest) ← escaped start rest
      stringFrom start ((Text.spell point).reverse ++ read) fuel rest
    else if c.toNat < 0x20 then .error ⟨.controlCharacter, rest.length + 1⟩
    else stringFrom start (c :: read) fuel rest

/-- The text after an opening quote. -/
def string (rest : List Char) : Except Stop (String × List Char) :=
  stringFrom (rest.length + 1) [] rest.length rest

/-- A decimal digit of a number. -/
def isDigit (c : Char) : Bool :=
  '0' ≤ c && c ≤ '9'

/-- The whole part of a number: nothing may follow a leading zero. -/
def wholePart : List Char → List Char × List Char
  | '0' :: rest => (['0'], rest)
  | cs => cs.span isDigit

/-- The digits after a point, if a digit follows it. -/
def fractionPart : List Char → List Char × List Char
  | '.' :: rest =>
    let (digits, after) := rest.span isDigit
    if digits.isEmpty then ([], '.' :: rest) else (digits, after)
  | cs => ([], cs)

/-- The exponent after its mark, if it has digits. -/
def exponentPart (cs : List Char) : Option Int × List Char :=
  match cs with
  | c :: rest =>
    if c = 'e' || c = 'E' then
      let (negative, body) := match rest with
        | '-' :: body => (true, body)
        | '+' :: body => (false, body)
        | body => (false, body)
      let (digits, after) := body.span isDigit
      if digits.isEmpty then (none, cs)
      else
        let n : Int := Number.digitsFrom 0 digits
        (some (if negative then -n else n), after)
    else (none, cs)
  | [] => (none, [])

/-- A number and what follows it. -/
def number (cs : List Char) : Except Stop (Json × List Char) :=
  let (negative, body) := match cs with
    | '-' :: body => (true, body)
    | body => (false, body)
  let (whole, rest) := wholePart body
  if whole.isEmpty then .error ⟨.expectingValue, cs.length⟩
  else
    let (fraction, rest) := fractionPart rest
    let (exponent, rest) := exponentPart rest
    let digits := Number.digitsFrom 0 (whole ++ fraction)
    if fraction.isEmpty && exponent.isNone then
      if Number.maxDigits < whole.length then .error ⟨.numberTooLong whole.length, cs.length⟩
      else .ok (.int (if negative then -(digits : Int) else digits), rest)
    else .ok (.float (.ofDecimal negative digits (exponent.getD 0 - fraction.length)), rest)

/-- A word or a number, and what follows it. -/
def scalar (cs : List Char) : Except Stop (Json × List Char) :=
  match cs with
  | 'n' :: 'u' :: 'l' :: 'l' :: rest => .ok (.null, rest)
  | 't' :: 'r' :: 'u' :: 'e' :: rest => .ok (.bool true, rest)
  | 'f' :: 'a' :: 'l' :: 's' :: 'e' :: rest => .ok (.bool false, rest)
  | 'N' :: 'a' :: 'N' :: rest => .ok (.float .nan, rest)
  | 'I' :: 'n' :: 'f' :: 'i' :: 'n' :: 'i' :: 't' :: 'y' :: rest =>
      .ok (.float (.infinity false), rest)
  | '-' :: 'I' :: 'n' :: 'f' :: 'i' :: 'n' :: 'i' :: 't' :: 'y' :: rest =>
    .ok (.float (.infinity true), rest)
  | cs => number cs

mutual

/-- A value and what follows it, in which containers may stand `depth` deep; `fuel` bounds the
length of what is read. -/
def value (depth : Nat) : Nat → List Char → Except Stop (Json × List Char)
  | 0, cs => .error ⟨.expectingValue, cs.length⟩
  | fuel + 1, cs =>
    match cs with
    | '"' :: rest => do
      let (s, rest) ← string rest
      pure (.str s, rest)
    | '[' :: rest =>
      if depth = 0 then .error ⟨.tooDeep .array, cs.length⟩
      else match skipSpace rest with
        | ']' :: rest => .ok (.arr [], rest)
        | rest => do
          let (items, rest) ← items (depth - 1) fuel rest
          pure (.arr items, rest)
    | '\x7b' :: rest =>
      if depth = 0 then .error ⟨.tooDeep .object, cs.length⟩
      else match skipSpace rest with
        | '\x7d' :: rest => .ok (.obj [], rest)
        | rest => do
          let (fields, rest) ← fields (depth - 1) fuel rest
          pure (.obj (fields.foldl (fun fs f => put fs f.1 f.2) []), rest)
    | cs => scalar cs

/-- The items of an array up to its closing bracket. -/
def items (depth : Nat) : Nat → List Char → Except Stop (List Json × List Char)
  | 0, cs => .error ⟨.expectingValue, cs.length⟩
  | fuel + 1, cs => do
    let (x, rest) ← value depth fuel cs
    match skipSpace rest with
    | ']' :: rest => pure ([x], rest)
    | ',' :: rest =>
      let (xs, rest) ← items depth fuel (skipSpace rest)
      pure (x :: xs, rest)
    | rest => .error ⟨.expectingComma, rest.length⟩

/-- The fields of an object up to its closing brace. -/
def fields (depth : Nat) : Nat → List Char → Except Stop (List (String × Json) × List Char)
  | 0, cs => .error ⟨.expectingName, cs.length⟩
  | fuel + 1, cs =>
    match cs with
    | '"' :: rest => do
      let (k, rest) ← string rest
      match skipSpace rest with
      | ':' :: rest =>
        let (x, rest) ← value depth fuel (skipSpace rest)
        match skipSpace rest with
        | '\x7d' :: rest => pure ([(k, x)], rest)
        | ',' :: rest =>
          let (fs, rest) ← fields depth fuel (skipSpace rest)
          pure ((k, x) :: fs, rest)
        | rest => .error ⟨.expectingComma, rest.length⟩
      | rest => .error ⟨.expectingColon, rest.length⟩
    | cs => .error ⟨.expectingName, cs.length⟩

end

/-- A value with nothing but blanks around it. -/
def document (cs : List Char) : Except Stop Json :=
  match cs with
  | '\ufeff' :: _ => .error ⟨.byteOrderMark, cs.length⟩
  | cs => do
    -- a container takes two steps for the one character of its bracket
    let (x, rest) ← value maxDepth (2 * cs.length + 1) (skipSpace cs)
    match skipSpace rest with
    | [] => pure x
    | rest => .error ⟨.extraData, rest.length⟩

/-- The value that a text writes. -/
def read (text : String) : Except Refusal Json :=
  let cs := text.toList
  match document cs with
  | .ok x => .ok x
  | .error stop => .error (.at stop.cause cs (cs.length - stop.left))

end ChatTriage.Json

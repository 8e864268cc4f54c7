import ChatTriage.Text.Quoted

/-!
# Bytes and texts

UTF-8 with the exact place and cause of a fault. A faulty sequence ends at the first byte that
cannot continue it; the lenient reading puts one replacement character there.
In the query of an address, unreserved characters stand as they are, a space as a plus sign, every
other byte as a percent sign and two hexadecimal digits. The name of a server is read the other way,
a percent sign without two such digits standing for itself.
-/

namespace ChatTriage.Text

/-- Why bytes are not a text. -/
inductive Utf8Cause where
  | invalidStart
  | invalidContinuation
  | unexpectedEnd
  deriving DecidableEq, Repr

/-- The faulty bytes: the first one's value, where they start, how many they are, and the cause. -/
structure Utf8Fault where
  byte : Nat
  start : Nat
  length : Nat
  cause : Utf8Cause
  deriving DecidableEq, Repr

/-- The wording of a cause. -/
def Utf8Cause.message : Utf8Cause → String
  | .invalidStart => "invalid start byte"
  | .invalidContinuation => "invalid continuation byte"
  | .unexpectedEnd => "unexpected end of data"

/-- The wording of a fault. -/
def Utf8Fault.message (f : Utf8Fault) : String :=
  let place :=
    if f.length = 1 then
      let hex := Nat.toDigits 16 f.byte
      "byte 0x" ++ String.ofList (List.replicate (2 - hex.length) '0' ++ hex) ++
        " in position " ++ toString f.start
    else "bytes in position " ++ toString f.start ++ "-" ++ toString (f.start + f.length - 1)
  "'utf-8' codec can't decode " ++ place ++ ": " ++ f.cause.message

/-- The continuation bytes that may come second after a given first byte. -/
def secondByteRange (first : Nat) : Nat × Nat :=
  if first = 0xe0 then (0xa0, 0xbf)
  else if first = 0xed then (0x80, 0x9f)
  else if first = 0xf0 then (0x90, 0xbf)
  else if first = 0xf4 then (0x80, 0x8f)
  else (0x80, 0xbf)

/-- How many bytes a first byte announces; zero for a byte that starts nothing. -/
def sequenceLength (first : Nat) : Nat :=
  if first < 0x80 then 1
  else if first < 0xc2 then 0
  else if first < 0xe0 then 2
  else if first < 0xf0 then 3
  else if first < 0xf5 then 4
  else 0

/-- Reads up to `want` continuation bytes onto `code`, the first of them within a range: the bytes
read, and the code point or the cause that stopped the reading. -/
def continuation (range : Nat × Nat) (code : Nat) : Nat → List Nat → Nat × Except Utf8Cause Nat
  | 0, _ => (0, .ok code)
  | _ + 1, [] => (0, .error .unexpectedEnd)
  | want + 1, b :: rest =>
    if range.1 ≤ b && b ≤ range.2 then
      let (taken, result) := continuation (0x80, 0xbf) (code * 64 + (b - 0x80)) want rest
      (taken + 1, result)
    else (0, .error .invalidContinuation)

/-- The first character of some bytes: how many bytes it takes, or how many are faulty and why. -/
def firstChar (first : Nat) (rest : List Nat) : Nat × Except Utf8Cause Char :=
  match sequenceLength first with
  | 0 => (1, .error .invalidStart)
  | 1 => (1, .ok (Char.ofNat first))
  | n + 2 =>
    let lead := if n = 0 then first - 0xc0 else if n = 1 then first - 0xe0 else first - 0xf0
    match continuation (secondByteRange first) lead (n + 1) rest with
    | (taken, .ok code) => (taken + 1, .ok (Char.ofNat code))
    | (taken, .error cause) => (taken + 1, .error cause)

/-- Reads bytes as characters and faults, in order; `skip` bytes belong to the last one. -/
def decodeFrom (position skip : Nat) : List Nat → List (Except Utf8Fault Char)
  | [] => []
  | b :: rest =>
    match skip with
    | k + 1 => decodeFrom (position + 1) k rest
    | 0 =>
      let (length, result) := firstChar b rest
      let one : Except Utf8Fault Char := match result with
        | .ok c => .ok c
        | .error cause => .error ⟨b, position, length, cause⟩
      one :: decodeFrom (position + 1) (length - 1) rest

/-- The bytes as a text, or the first fault. -/
def decodeUtf8 (bytes : List Nat) : Except Utf8Fault String :=
  ((decodeFrom 0 0 bytes).mapM id).map fun cs => ofCharacters (String.ofList cs)

/-- The bytes as a text, with a replacement character for each fault. -/
def decodeUtf8Lenient (bytes : List Nat) : String :=
  ofCharacters <| String.ofList <| (decodeFrom 0 0 bytes).map fun
    | .ok c => c
    | .error _ => '\ufffd'

/-- The bytes of a text that can be encoded. -/
def encodeUtf8 (s : String) : List Nat :=
  (characters s).toUTF8.toList.map (·.toNat)

/-- The wording of the fault that a text cannot be encoded: where its first surrogates stand. -/
def unencodableText (s : String) : String :=
  let points := (spellings s.toList).map point
  let start := (points.takeWhile (!isSurrogate ·)).length
  let place := match (points.drop start).takeWhile isSurrogate with
    | one :: [] => "character '" ++ pointEscape one ++ "' in position " ++ toString start
    | run =>
      "characters in position " ++ toString start ++ "-" ++ toString (start + run.length - 1)
  "'utf-8' codec can't encode " ++ place ++ ": surrogates not allowed"

/-- A byte that stands for itself in a query. -/
def isUnreserved (b : Nat) : Bool :=
  let c := Char.ofNat b
  b < 128 && (c.isAlphanum || c = '_' || c = '.' || c = '-' || c = '~')

/-- One byte of a query value. -/
def percentByte (b : Nat) : String :=
  if isUnreserved b then (Char.ofNat b).toString
  else if b = 0x20 then "+"
  else
    let hex := (Nat.toDigits 16 b).map Char.toUpper
    "%" ++ String.ofList (List.replicate (2 - hex.length) '0' ++ hex)

/-- The value of a hexadecimal digit. -/
def hexDigit? (c : Char) : Option Nat :=
  if '0' ≤ c && c ≤ '9' then some (c.toNat - 48)
  else if 'a' ≤ c && c ≤ 'f' then some (c.toNat - 87)
  else if 'A' ≤ c && c ≤ 'F' then some (c.toNat - 55)
  else none

/-- The bytes that an ASCII text with percent signs writes. -/
def percentBytes : List Char → List Nat
  | '%' :: a :: b :: rest =>
    match hexDigit? a, hexDigit? b with
    | some high, some low => (high * 16 + low) :: percentBytes rest
    | _, _ => 0x25 :: percentBytes (a :: b :: rest)
  | c :: rest => c.toNat :: percentBytes rest
  | [] => []

/-- The text that a text with percent signs writes: what is ASCII in it is read as bytes, and what
is not stands for itself. -/
def unpercent (cs : List Char) : String :=
  let runs := cs.splitBy fun a b => (a.toNat < 128) == (b.toNat < 128)
  String.join <| runs.map fun run =>
    if run.all (·.toNat < 128) then decodeUtf8Lenient (percentBytes run) else String.ofList run

/-- A query value. -/
def percent (s : String) : String :=
  String.join ((encodeUtf8 s).map percentByte)

/-- A query: names and values, joined. -/
def query (fields : List (String × String)) : String :=
  "&".intercalate (fields.map fun (name, value) => percent name ++ "=" ++ percent value)

end ChatTriage.Text

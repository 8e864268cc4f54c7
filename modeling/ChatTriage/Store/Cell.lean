import ChatTriage.Fault
import ChatTriage.Json.Query
import ChatTriage.Json.Writer
import ChatTriage.Store.Decimal

/-!
# Cells and documents of a row

A cell is a value in a column of a table. Numeric columns turn texts that write a decimal number
into numbers, and whole binary numbers into whole ones, as far as 64 bits reach. The document of a
row is either one that the desk wrote, which reads back as it was, or a text that came from
elsewhere and may hold anything.
-/

namespace ChatTriage.Store

/-- A value in a column. -/
inductive Cell where
  | null
  | int (value : Int)
  | real (value : Double)
  | text (value : String)
  deriving DecidableEq, Repr

/-- The whole numbers that a column holds. -/
def fits (n : Int) : Bool :=
  Number.inSignedWord 63 n

/-- Why a value cannot be put into a statement. -/
inductive Unbound where
  | kind (name : String)
  | tooLarge
  | unencodable (text : String)
  deriving DecidableEq, Repr

/-- The cell for a value. -/
def Cell.ofJson (x : Json) : Except Unbound Cell :=
  match x with
  | .null => .ok .null
  | .bool b => .ok (.int (if b then 1 else 0))
  | .int n => if fits n then .ok (.int n) else .error .tooLarge
  | .float x => .ok (if x.isNaN then .null else .real x)
  | .str s => if Text.encodable s then .ok (.text s) else .error (.unencodable s)
  | x => .error (.kind x.kindName)

/-- The cell for a value at a place in a statement, or the fault that it cannot be put there. -/
def Cell.bind (report : SqlFault → Fault) (position : Nat) (x : Json) : Except Fault Cell :=
  match Cell.ofJson x with
  | .ok c => .ok c
  | .error (.kind name) => .error (report (.binding position name))
  | .error .tooLarge => .error (.range .storedInteger)
  | .error (.unencodable s) => .error (.value (.unencodable s))

/-- Puts a text into a statement. -/
def bindText (s : String) : Except Fault Unit :=
  if Text.encodable s then .ok () else .error (.value (.unencodable s))

/-- Puts the text of a document into a statement. -/
def bindDocument (value : Json) : Except Fault Unit :=
  if value.encodable then .ok () else .error (.value (.unencodable (value.write .unicode)))

namespace Cell

/-- The value of a cell. -/
def toJson : Cell → Json
  | .null => .null
  | .int n => .int n
  | .real x => .float x
  | .text s => .str s

/-- A blank around a number in a text. -/
def isSpace (c : Char) : Bool :=
  c = ' ' || (9 ≤ c.toNat && c.toNat ≤ 13)

/-- A binary number in a numeric column: whole ones become whole numbers. -/
def ofDouble (x : Double) : Cell :=
  let n := x.truncate
  if x.isWhole && fits (n - 1) && fits (n + 1) then .int n else .real x

/-- The decimal number at the start of a text, and what follows it: sign, digits, fraction,
exponent. -/
def leadingDecimal? (cs : List Char) : Option (Cell × List Char) :=
  let (negative, body) := Number.signed cs
  let (whole, rest) := body.span Json.isDigit
  let (point, fraction, rest) := match rest with
    | '.' :: rest => let (digits, rest) := rest.span Json.isDigit; (true, digits, rest)
    | rest => (false, [], rest)
  if whole.isEmpty && fraction.isEmpty then none
  else
    let (exponent, rest) := Json.exponentPart rest
    let digits := Number.digitsFrom 0 (whole ++ fraction)
    let n : Int := if negative then -(digits : Int) else digits
    let cell := if !point && exponent.isNone && fits n then .int n
      else ofDouble (readDecimal negative whole fraction (exponent.getD 0))
    some (cell, rest)

/-- The decimal number that a text writes between blanks. -/
def decimal? (s : String) : Option Cell :=
  match leadingDecimal? (s.toList.dropWhile isSpace) with
  | some (cell, rest) => if rest.all isSpace then some cell else none
  | none => none

/-- What a cell counts for in a sum: a text for the number at its start, zero if there is none. -/
def amount : Cell → Cell
  | .text s =>
    match leadingDecimal? (s.toList.dropWhile isSpace) with
    | some (cell, _) => cell
    | none => .int 0
  | c => c

/-- A cell of a numeric column plus one. -/
def plusOne (c : Cell) : Cell :=
  match c.amount with
  | .int n => if fits (n + 1) then .int (n + 1) else .real (.ofRatio false (n + 1).natAbs 1)
  | .real x => ofDouble x.plusOne
  | c => c

/-- A cell as a numeric column keeps it. -/
def numeric : Cell → Cell
  | .real x => ofDouble x
  | .text s => (decimal? s).getD (.text s)
  | c => c

/-- A cell as a text column keeps it. -/
def textual? : Cell → Option String
  | .null => none
  | .int n => some (toString n)
  | .real x => some (writeDecimal x)
  | .text s => some s

/-- A cell is equal to the id of a row. -/
def isId (c : Cell) (id : Int) : Bool :=
  match c.numeric with
  | .int n => n = id
  | .real x => x.equalsInt id
  | _ => false

end Cell

/-- A value that a column needs. -/
def needed {α : Type} (column : String) : Option α → Except Fault α
  | some a => .ok a
  | none => .error (.constraint (SqlFault.required column).text)

/-- The document of a row. -/
inductive Document where
  | written (value : Json)
  | foreign (text : String)
  deriving DecidableEq, Repr

/-- Reads a document. -/
def Document.read : Document → Except Fault Json
  | .written value => .ok value
  | .foreign text =>
    match Json.read text with
    | .ok value => .ok value
    | .error refusal => .error (.json refusal)

end ChatTriage.Store

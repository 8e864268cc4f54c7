import ChatTriage.Fault

/-!
# Asking values for their parts

Definitions and payloads come from outside with values of any kind. Each question here has an answer
for the kinds that can give one and a fault for the others. Several of them treat the empty values
(null, false, zero, an empty text, list or object) as absent.
-/

namespace ChatTriage.Json

/-- The kind of a value, as faults name it. -/
def kindName : Json → String
  | .null => "NoneType"
  | .bool _ => "bool"
  | .int _ => "int"
  | .float _ => "float"
  | .str _ => "str"
  | .arr _ => "list"
  | .obj _ => "dict"

/-- A value that is not empty. -/
def truthy : Json → Bool
  | .null => false
  | .bool b => b
  | .int n => n ≠ 0
  | .float x => !x.isZero
  | .str s => !s.isEmpty
  | .arr items => !items.isEmpty
  | .obj fields => !fields.isEmpty

/-- The value, or another one if it is empty. -/
def orElse (x y : Json) : Json :=
  if x.truthy then x else y

/-- A field of an object, null if it is missing. Only objects can be asked. -/
def get (x : Json) (name : String) : Except Fault Json :=
  match x with
  | .obj fields => .ok ((find? fields name).getD .null)
  | x => .error (.missingPart x.kindName "get")

/-- A field of an object, or another value if it is missing. -/
def getOr (x : Json) (name : String) (other : Json) : Except Fault Json :=
  match x with
  | .obj fields => .ok ((find? fields name).getD other)
  | x => .error (.missingPart x.kindName "get")

/-- A field that has to be there. -/
def field (x : Json) (name : String) : Except Fault Json :=
  match x with
  | .obj fields =>
    match find? fields name with
    | some y => .ok y
    | none => .error (.missingKey (.str name))
  | .arr _ => .error (.wrongKind .listByName)
  | .str _ => .error (.wrongKind .textByName)
  | x => .error (.wrongKind (.noFields x.kindName))

/-- The first element of a value that has elements by position. -/
def first (x : Json) : Except Fault Json :=
  match x with
  | .arr [] => .error .noElement
  | .arr (y :: _) => .ok y
  | .str s =>
    match Text.spellings s.toList with
    | [] => .error .noElement
    | spelled :: _ => .ok (.str (String.ofList spelled))
  | .obj _ => .error (.missingKey (.int 0))
  | x => .error (.wrongKind (.noFields x.kindName))

/-- What a value consists of: the items of a list, the code points of a text, the names of an
object. -/
def elements (x : Json) : Except Fault (List Json) :=
  match x with
  | .arr items => .ok items
  | .str s => .ok ((Text.spellings s.toList).map fun spelled => .str (String.ofList spelled))
  | .obj fields => .ok (fields.map fun f => .str f.1)
  | x => .error (.wrongKind (.notIterable x.kindName))

/-- What a value consists of, nothing if it is empty. -/
def elementsOrNone (x : Json) : Except Fault (List Json) :=
  if x.truthy then x.elements else .ok []

/-- The whole number that a value stands for: binary numbers are cut, texts are read. -/
def toInt (x : Json) : Except Fault Int :=
  match x with
  | .bool b => .ok (if b then 1 else 0)
  | .int n => .ok n
  | .float x =>
    if x.isNaN then .error (.value .notANumber)
    else if x.isInfinite then .error (.range .infiniteInteger)
    else .ok x.truncate
  | .str s =>
    match Number.readInteger s with
    | .ok n => .ok n
    | .error cause => .error (.value (.integer cause))
  | x => .error (.wrongKind (.notNumeric x.kindName))

/-- The number of a value, as far as it has one: a whole number or a binary one. -/
inductive Numeric where
  | whole (n : Int)
  | binary (x : Double)
  deriving DecidableEq, Repr

/-- Truth values count as numbers. -/
def numeric? : Json → Option Numeric
  | .bool b => some (.whole (if b then 1 else 0))
  | .int n => some (.whole n)
  | .float x => some (.binary x)
  | _ => none

/-- Equality of numbers across their kinds. -/
def Numeric.same : Numeric → Numeric → Bool
  | .whole m, .whole n => m == n
  | .whole m, .binary y => y.equalsInt m
  | .binary x, .whole n => x.equalsInt n
  | .binary x, .binary y => x.same y

mutual

/-- Equality by value: numbers across their kinds, objects without regard to order. -/
def same : Json → Json → Bool
  | .null, .null => true
  | .str a, .str b => a == b
  | .arr xs, .arr ys => sameItems xs ys
  | .obj fs, .obj gs => fs.length == gs.length && sameFields fs gs
  | .bool a, y => sameNumber (.bool a) y
  | .int a, y => sameNumber (.int a) y
  | .float a, y => sameNumber (.float a) y
  | _, _ => false

/-- `same`, item by item. -/
def sameItems : List Json → List Json → Bool
  | [], [] => true
  | x :: xs, y :: ys => same x y && sameItems xs ys
  | _, _ => false

/-- Each field has its like among others. -/
def sameFields : List (String × Json) → List (String × Json) → Bool
  | [], _ => true
  | (k, x) :: fs, gs => (match find? gs k with | some y => same x y | none => false) &&
      sameFields fs gs

/-- Equality of numbers. -/
def sameNumber (x y : Json) : Bool :=
  match numeric? x, numeric? y with
  | some m, some n => m.same n
  | _, _ => false

end

/-- Values that can be members of a set; lists and objects cannot. -/
def hashable : Json → Bool
  | .arr _ | .obj _ => false
  | _ => true

/-- The text of a value, or the fault that it has no such part. -/
def asText (part : String) (x : Json) : Except Fault String :=
  match x with
  | .str s => .ok s
  | x => .error (.missingPart x.kindName part)

/-- A value as it stands in a sentence, unless it is too long to be written. -/
def written (x : Json) : Except Fault String :=
  if x.writable then .ok x.shown else .error (.value .unwritable)

/-- The text that a value holds, if it is one. -/
def text? : Json → Option String
  | .str s => some s
  | _ => none

end ChatTriage.Json

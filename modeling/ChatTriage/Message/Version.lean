import ChatTriage.Fault
import ChatTriage.Json.Query

/-!
# Versions of messages

A version counts how often a message was saved. A row can also hold a binary number, which a count
turns into beyond the 64 bits of a column, or a text that came from elsewhere.
-/

namespace ChatTriage

/-- The version of a message. -/
inductive Version where
  | count (saves : Int)
  | real (value : Double)
  | word (text : String)
  deriving DecidableEq, Repr

namespace Version

/-- The value of a version. -/
def toJson : Version → Json
  | .count n => .int n
  | .real x => .float x
  | .word s => .str s

/-- The version that a value is, if it can be one. -/
def ofJson? : Json → Option Version
  | .int n => some (.count n)
  | .float x => some (.real x)
  | .str s => some (.word s)
  | _ => none

/-- A version reads back. -/
@[simp] theorem ofJson?_toJson (v : Version) : ofJson? v.toJson = some v := by
  cases v <;> rfl

/-- The version after one more save. A text cannot be counted on. -/
def next : Version → Except Fault Version
  | .count n => .ok (.count (n + 1))
  | .real x => .ok (.real x.plusOne)
  | .word _ => .error (.wrongKind .textPlusNumber)

/-- A count is followed by the next one. -/
@[simp] theorem next_count (n : Int) : (Version.count n).next = .ok (.count (n + 1)) := rfl

/-- Two versions are equal as values. -/
def same (v w : Version) : Bool :=
  v.toJson.same w.toJson

/-- Counts are the same when their numbers are. -/
@[simp] theorem same_count (m n : Int) : (Version.count m).same (.count n) = (m == n) := by
  simp [same, toJson, Json.same, Json.sameNumber, Json.numeric?, Json.Numeric.same]

end Version

end ChatTriage

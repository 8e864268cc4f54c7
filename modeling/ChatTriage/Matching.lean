import ChatTriage.Filter
import ChatTriage.Message
import ChatTriage.Phone
import ChatTriage.Text.Casing
import ChatTriage.Text.Search
import ChatTriage.Time.Zone

/-!
# Matching messages against filters

A filter accepts a message when each of its criteria does: its authors, its keywords, its content
types and its time range. The criteria are asked in that order and the first refusal ends the
questions; a criterion without entries asks for nothing. Asking can fail where a value is of the
wrong kind.
-/

namespace ChatTriage

/-- An author is the sender: the digits of their numbers agree, or else their names do. -/
def Author.isSender (a : Author) (s : Sender) : Bool :=
  let own := match a.phone with | some p => Phone.digitsOf p | none => ""
  (!own.isEmpty && own = Phone.digitsOf s.phone) ||
    (match a.name with | some n => !n.isEmpty && s.name = .str n | none => false)

/-- One of the authors is the sender. -/
def authorsAccept (authors : List Author) (s : Sender) : Bool :=
  authors.any (·.isSender s)

/-- The keywords are found in a text, without regard to case: one of them, or all. -/
def keywordsAccept (text : String) (keywords : List String) (mode : KeywordMode) : Bool :=
  let lowered := Text.lower text
  let hit (keyword : String) : Bool := Text.contains lowered (Text.lower keyword)
  match mode with
  | .any => keywords.any hit
  | .all => keywords.all hit

/-- The wall clock of a zone at the time of a message. -/
def localWall (timestamp : Option DateTime) (zone : Zone) : Except Fault Wall :=
  match timestamp with
  | some t => t.inZone zone
  | none => .error (.missingPart "NoneType" "astimezone")

/-- Compares a clock reading with a bound, which has to be a text. -/
def clockBefore (sign : String) (below : String → Bool) (bound : Json) : Except Fault Bool :=
  match bound with
  | .str s => .ok (below s)
  | bound => .error (.wrongKind (.unordered sign bound.kindName))

namespace TimeRange

/-- The clock lies between the bounds, both included; a range with only one bound, or none, has no
hours. -/
def hoursAccept (r : TimeRange) (clock : String) : Except Fault Bool := do
  if !(r.start.truthy && r.stop.truthy) then return true
  if ← clockBefore "<" (fun bound => clock < bound) r.start then return false
  if ← clockBefore ">" (fun bound => bound < clock) r.stop then return false
  return true

/-- The weekday is among the days, if there are any. -/
def daysAccept (r : TimeRange) (weekday : Nat) : Bool :=
  r.days.isEmpty || r.days.contains (weekday : Int)

/-- The time of a message lies in the range, on the clock of a zone. -/
def accepts (r : TimeRange) (timestamp : Option DateTime) (zone : Zone) : Except Fault Bool := do
  let wall ← localWall timestamp zone
  if !(← r.hoursAccept wall.clock) then return false
  return r.daysAccept wall.weekday

end TimeRange

namespace Filter

/-- The keywords of a filter are found in the text of a message, which must not be empty. -/
def textAccepts (f : Filter) (m : Message) : Except Fault Bool :=
  let text := m.text
  if f.keywords.isEmpty then .ok true
  else if !text.truthy then .ok false
  else (text.asText "lower").map fun s => keywordsAccept s f.keywords f.keywordMode

/-- The content type of a message is among those of a filter. -/
def typeAccepts (f : Filter) (m : Message) : Bool :=
  f.messageTypes.isEmpty || f.messageTypes.contains m.content.type

/-- The time of a message lies in the range of a filter. -/
def timeAccepts (f : Filter) (m : Message) (zone : Zone) : Except Fault Bool :=
  match f.timeRange with
  | some r => r.accepts m.timestamp zone
  | none => .ok true

/-- A filter accepts a message, on the clock of a zone. -/
def accepts (f : Filter) (m : Message) (zone : Zone) : Except Fault Bool := do
  if !f.authors.isEmpty && !authorsAccept f.authors m.sender then return false
  if !(← f.textAccepts m) then return false
  if !f.typeAccepts m then return false
  f.timeAccepts m zone

end Filter

end ChatTriage

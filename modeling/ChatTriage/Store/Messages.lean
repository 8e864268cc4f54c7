import ChatTriage.Message.Document
import ChatTriage.Store.Cell

/-!
# The table of messages

One row per message, in the order in which they came. A message is created once per id. A save goes
through only from the version that the row has, and raises it; so of two copies of one version only
one is ever saved.
-/

namespace ChatTriage

namespace Version

/-- The cell of a version. -/
def cell : Version → Store.Cell
  | .count n => .int n
  | .real x => .real x
  | .word s => .text s

/-- The version in a cell, if there is one. -/
def ofCell? : Store.Cell → Option Version
  | .null => none
  | .int n => some (.count n)
  | .real x => some (.real x)
  | .text s => some (.word s)

/-- A version can stand in a column: as a count it lies within 64 bits. -/
def fits : Version → Bool
  | .count n => Store.fits n
  | _ => true

/-- The version of a row after one more save. -/
def raised (v : Version) : Version :=
  (ofCell? v.cell.plusOne).getD v

/-- A count that fits is raised by one. -/
theorem raised_count {n : Int} (h : Store.fits (n + 1) = true) :
    (Version.count n).raised = .count (n + 1) := by
  simp [raised, cell, Store.Cell.plusOne, Store.Cell.amount, h, ofCell?]

end Version

namespace Store

/-- A row of the table. One that came from elsewhere may be without an id. -/
structure MessageRow where
  id : Option String
  status : Status
  version : Version
  document : Document
  deriving DecidableEq, Repr

/-- The table, in the order of insertion. -/
structure MessageTable where
  rows : List MessageRow := []
  deriving DecidableEq, Repr

namespace MessageTable

/-- The row with an id. -/
def row? (t : MessageTable) (id : String) : Option MessageRow :=
  t.rows.find? (·.id = some id)

end MessageTable

/-- Creates the row of a new message. -/
def createMessage (t : Option MessageTable) (m : Message) : Except Fault MessageTable := do
  let document ← m.toJson
  match t with
  | none => throw (.store (.messageInsert (.noTable "messages")))
  | some t =>
    bindText m.id
    bindDocument document
    if (t.row? m.id).isSome then throw (.duplicate (.messageId m.id))
    return ⟨t.rows ++ [⟨some m.id, m.status, .count 0, .written document⟩]⟩

/-- Writes a message over the row with its id and version; nothing if no row has both. -/
def writeMessage (t : Option MessageTable) (m : Message) : Except Fault (Option MessageTable) := do
  let document ← m.toJson
  match t with
  | none => throw (.store (.messageSave (.noTable "messages")))
  | some t =>
    bindDocument document
    bindText m.id
    if !m.version.fits then throw (.range .storedInteger)
    let isOwn (r : MessageRow) : Bool := r.id = some m.id && r.version.same m.version
    if !t.rows.any isOwn then return none
    return some ⟨t.rows.map fun r =>
      if isOwn r then
        { r with status := m.status, version := r.version.raised, document := .written document }
      else r⟩

/-- The message of a row. -/
def MessageRow.load (r : MessageRow) : Except Fault Message := do
  Message.ofJson (← r.document.read) r.version

/-- The message with an id. -/
def getMessage (t : Option MessageTable) (id : String) : Except Fault (Option Message) :=
  match t with
  | none => .error (.store (.messageQuery (.noTable "messages")))
  | some t => do
    bindText id
    match t.row? id with
    | none => return none
    | some r => some <$> r.load

/-- The message whose id is equal to a value. -/
def messageMatching (t : Option MessageTable) (id : Json) : Except Fault (Option Message) := do
  if t.isNone then throw (.store (.messageQuery (.noTable "messages")))
  let id ← Cell.bind (.store <| .messageQuery ·) 1 id
  match id.textual? with
  | some id => getMessage t id
  | none => return none

/-- Why no row could be written: what looking the message up gave. -/
def unwritten (id : String) (found : Except Fault (Option Message)) : Fault :=
  match found with
  | .error f => f
  | .ok none => .store (.noMessage id)
  | .ok (some _) => .conflict (.message id)

/-- Saves a message. -/
def saveMessage (t : Option MessageTable) (m : Message) : Except Fault MessageTable := do
  match ← writeMessage t m with
  | some t => return t
  | none => throw (unwritten m.id (getMessage t m.id))

/-- Puts in a row as it is given, its document being any text. -/
def insertMessageRow (t : Option MessageTable) (id version document : Json) :
    Except Fault MessageTable :=
  match t with
  | none => .error (.operation (.noTable "messages"))
  | some t => do
    let id ← Cell.bind .operation 1 id
    let version ← Cell.bind .operation 2 version
    let document ← Cell.bind .operation 3 document
    let version ← needed "messages.version" (Version.ofCell? version.numeric)
    let text ← needed "messages.data" document.textual?
    if (id.textual?.bind t.row?).isSome then
      throw (.constraint "UNIQUE constraint failed: messages.message_id")
    return ⟨t.rows ++ [⟨id.textual?, .received, version, .foreign text⟩]⟩

end Store

end ChatTriage

import ChatTriage.Store.Filters
import ChatTriage.Store.Messages

/-!
# Both tables as a document

The tables as they are kept together, either of which may be missing, and the form in which they are
kept between runs of the program. What is written reads back as it was.
-/

namespace ChatTriage.Store

/-- The tables that are kept together. -/
structure Tables where
  filters : Option FilterTable := none
  messages : Option MessageTable := none
  deriving DecidableEq, Repr

/-- The tables with empty ones for those that are missing. -/
def Tables.complete (t : Tables) : Tables :=
  ⟨some (t.filters.getD {}), some (t.messages.getD {})⟩

/-- A document that the desk wrote stands in a list of its own; a foreign text stands as it is. -/
def Document.toJson : Document → Json
  | .written value => .arr [value]
  | .foreign text => .str text

def Document.ofJson? : Json → Option Document
  | .arr [value] => some (.written value)
  | .str text => some (.foreign text)
  | _ => none

/-- A document reads back. -/
@[simp] theorem Document.ofJson?_toJson (d : Document) : Document.ofJson? d.toJson = some d := by
  cases d <;> rfl

def Cell.ofJson? : Json → Option Cell
  | .null => some .null
  | .int n => some (.int n)
  | .float x => some (.real x)
  | .str s => some (.text s)
  | _ => none

/-- A cell reads back. -/
@[simp] theorem Cell.ofJson?_toJson (c : Cell) : Cell.ofJson? c.toJson = some c := by
  cases c <;> rfl

namespace FilterRow

def toJson (r : FilterRow) : Json :=
  .arr [.int r.id, .str r.name, r.enabled.toJson, r.matched.toJson, r.lastMatch.toJson,
    r.document.toJson]

def ofJson? : Json → Option FilterRow
  | .arr [.int id, .str name, enabled, matched, lastMatch, document] => do
    return ⟨id, name, ← Cell.ofJson? enabled, ← Cell.ofJson? matched, ← Cell.ofJson? lastMatch,
      ← Document.ofJson? document⟩
  | _ => none

/-- A row of filters reads back. -/
@[simp] theorem ofJson?_toJson (r : FilterRow) : ofJson? r.toJson = some r := by
  simp [toJson, ofJson?]

end FilterRow

namespace MessageRow

def toJson (r : MessageRow) : Json :=
  .arr [.ofText? r.id, .str r.status.name, r.version.toJson, r.document.toJson]

def ofJson? : Json → Option MessageRow
  | .arr [id, .str status, version, document] => do
    return ⟨id.text?, ← Status.ofName? status, ← Version.ofJson? version,
      ← Document.ofJson? document⟩
  | _ => none

/-- A row of messages reads back. -/
@[simp] theorem ofJson?_toJson (r : MessageRow) : ofJson? r.toJson = some r := by
  have hs : Status.ofName? r.status.name = some r.status := by cases r.status <;> decide
  have hi : (Json.ofText? r.id).text? = r.id := by cases r.id <;> rfl
  simp [toJson, ofJson?, hs, hi]

end MessageRow

/-- Reads every item, or nothing. -/
def readAll {α : Type} (read : Json → Option α) : List Json → Option (List α)
  | [] => some []
  | x :: xs => do return (← read x) :: (← readAll read xs)

/-- A list reads back if its members do. -/
theorem readAll_map {α : Type} {read : Json → Option α} {write : α → Json}
    (h : ∀ a, read (write a) = some a) (as : List α) : readAll read (as.map write) = some as := by
  induction as with
  | nil => rfl
  | cons a as ih => simp [readAll, h, ih]

/-- Both tables as a document; a table that is missing is null. -/
def Tables.archive (t : Tables) : Json :=
  .arr [
    match t.filters with
    | some t => .arr (.int t.lastId :: t.rows.map FilterRow.toJson)
    | none => .null,
    match t.messages with
    | some t => .arr (t.rows.map MessageRow.toJson)
    | none => .null]

def readFilters? : Json → Option (Option FilterTable)
  | .null => some none
  | .arr (.int lastId :: rows) => do
    return some ⟨← readAll FilterRow.ofJson? rows, lastId⟩
  | _ => none

def readMessages? : Json → Option (Option MessageTable)
  | .null => some none
  | .arr rows => do return some ⟨← readAll MessageRow.ofJson? rows⟩
  | _ => none

/-- Reads both tables from a document. -/
def Tables.unarchive? : Json → Option Tables
  | .arr [filters, messages] => do return ⟨← readFilters? filters, ← readMessages? messages⟩
  | _ => none

/-- What is kept reads back. -/
theorem Tables.unarchive?_archive (t : Tables) : unarchive? t.archive = some t := by
  have hf := readAll_map FilterRow.ofJson?_toJson
  have hm := readAll_map MessageRow.ofJson?_toJson
  obtain ⟨filters, messages⟩ := t
  cases filters <;> cases messages <;> simp [archive, unarchive?, readFilters?,
    readMessages?, hf, hm]

end ChatTriage.Store

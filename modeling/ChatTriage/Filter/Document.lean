import ChatTriage.Filter
import ChatTriage.Json.Query
import ChatTriage.Phone
import ChatTriage.Text.Blank
import ChatTriage.Text.Casing
import ChatTriage.Time.Reader

/-!
# Filter documents

The written form of filters, as operators define them and as stores keep them, and the reading of
such documents. Reading normalizes: names are trimmed, empty values count as missing, repeated tags
are dropped, and a bare number is an author.
-/

namespace ChatTriage

/-- A date with a time, none for null and the empty text. -/
def DateTime.ofJson (raw : Json) : Except Fault (Option DateTime) :=
  if raw = .null || raw = .str "" then .ok none
  else
    let text := raw.shown
    match DateTime.read? text with
    | some t => .ok (some t)
    | none => .error (.value (.date text))

/-- The written form of a date that may be missing. -/
def DateTime.toJson : Option DateTime → Json
  | some t => .str t.iso
  | none => .null

/-- The mode that a value names, also by its older words. A missing one asks for any keyword. -/
def KeywordMode.ofJson (raw : Json) : Except Fault KeywordMode :=
  if !raw.truthy then .ok .any
  else
    let word := Text.upper (Text.trim raw.shown)
    if word = "ANY" || word = "OR" then .ok .any
    else if word = "ALL" || word = "AND" then .ok .all
    else .error (.value (.unsupportedMode raw))

/-- The content type that a value names. -/
def ContentType.ofJson (raw : Json) : Except Fault ContentType :=
  match raw.text? >>= ContentType.ofName? with
  | some t => .ok t
  | none => .error (.value (.notMember raw .contentType))

/-- The priority that a value names. -/
def Priority.ofJson (raw : Json) : Except Fault Priority :=
  match raw.text? >>= Priority.ofName? with
  | some p => .ok p
  | none => .error (.value (.notMember raw .priority))

/-- The text of a value that may be missing. -/
def shown? (raw : Json) : Option String :=
  if raw = .null then none else some raw.shown

/-- The text of a value, nothing for an empty one. -/
def shownOrBlank (raw : Json) : String :=
  if raw.truthy then raw.shown else ""

/-- An author, from an object or from a bare number. -/
def Author.ofJson (raw : Json) : Author :=
  match raw with
  | .obj fields =>
    ⟨shown? ((Json.find? fields "phoneNumber").getD .null),
      shown? ((Json.find? fields "name").getD .null)⟩
  | raw => ⟨some raw.shown, none⟩

/-- The written form of an author. -/
def Author.toJson (a : Author) : Json :=
  .obj [("phoneNumber", .ofText? a.phone), ("name", .ofText? a.name)]

namespace TimeRange

/-- A time range; one that asks for nothing is none. -/
def ofJson (raw : Json) : Except Fault (Option TimeRange) := do
  if !raw.truthy then return none
  let start := (← raw.get "start").orElse .null
  let stop := (← raw.get "end").orElse .null
  let days ← (← (← raw.get "days").elementsOrNone).mapM Json.toInt
  if start = .null && stop = .null && days.isEmpty then return none
  return some ⟨start, stop, days⟩

/-- The written form of a time range. -/
def toJson (r : TimeRange) : Json :=
  .obj [("start", r.start), ("end", r.stop), ("days", .arr (r.days.map .int))]

end TimeRange

namespace FilterActions

/-- The actions of a definition. -/
def ofJson (raw : Json) : Except Fault FilterActions := do
  let raw := raw.orElse (.obj [])
  let reply := (← raw.get "autoReply").orElse (.obj [])
  let priority ← raw.get "setPriority"
  let markImportant := (← raw.get "markAsImportant").truthy
  let setPriority ← if priority.truthy then some <$> Priority.ofJson priority else pure none
  let addTags := Phone.distinct ((← (← raw.get "addTags").elementsOrNone).map Json.shown)
  let enabled := (← reply.get "enabled").truthy
  let message := shownOrBlank (← reply.get "message")
  let forwardTo := (← (← raw.get "forwardTo").elementsOrNone).map Json.shown
  let archive := (← raw.get "archive").truthy
  return {
    markImportant, setPriority, addTags, autoReply := ⟨enabled, message⟩, forwardTo, archive }

/-- The written form of actions. -/
def toJson (a : FilterActions) : Json :=
  .obj [
    ("markAsImportant", .bool a.markImportant),
    ("setPriority", .ofText? (a.setPriority.map Priority.name)),
    ("addTags", .ofTexts a.addTags),
    ("autoReply", .obj [
      ("enabled", .bool a.autoReply.enabled), ("message", .str a.autoReply.message)]),
    ("forwardTo", .ofTexts a.forwardTo),
    ("archive", .bool a.archive)]

end FilterActions

/-- The written form of stats. -/
def FilterStats.toJson (s : FilterStats) : Json :=
  .obj [("matches", .int s.matched), ("lastMatch", DateTime.toJson s.lastMatch)]

namespace Filter

/-- The filter that a document defines. -/
def ofJson (raw : Json) : Except Fault Filter := do
  let name := Text.trim (← raw.field "name").shown
  if name.isEmpty then throw (.value .emptyFilterName)
  let stats := (← raw.get "stats").orElse (.obj [])
  let id ← raw.get "id"
  let description := shownOrBlank (← raw.get "description")
  let authors := (← (← raw.get "authors").elementsOrNone).map Author.ofJson
  let keywords := (← (← raw.get "keywords").elementsOrNone).map Json.shown
  let keywordMode ← KeywordMode.ofJson (← raw.get "keywordMatchMode")
  let messageTypes ← (← (← raw.get "messageTypes").elementsOrNone).mapM ContentType.ofJson
  let timeRange ← TimeRange.ofJson (← raw.get "timeRange")
  let actions ← FilterActions.ofJson (← raw.get "actions")
  let enabled := (← raw.getOr "enabled" (.bool true)).truthy
  let matched ← (← stats.getOr "matches" (.int 0)).toInt
  let lastMatch ← DateTime.ofJson (← stats.get "lastMatch")
  return {
    id, name, description, authors, keywords, keywordMode, messageTypes, timeRange, actions
    enabled, stats := ⟨matched, lastMatch⟩ }

/-- The part of the written form that a store keeps as one document. -/
def definition (f : Filter) : List (String × Json) :=
  [ ("description", .str f.description),
    ("authors", .arr (f.authors.map Author.toJson)),
    ("keywords", .ofTexts f.keywords),
    ("keywordMatchMode", .str f.keywordMode.name),
    ("messageTypes", .ofTexts (f.messageTypes.map ContentType.name)),
    ("timeRange", match f.timeRange with | some r => r.toJson | none => .null),
    ("actions", f.actions.toJson)]

/-- The written form of a filter. -/
def toJson (f : Filter) : Json :=
  .obj ([("id", f.id), ("name", .str f.name)] ++ f.definition ++
    [("enabled", .bool f.enabled), ("stats", f.stats.toJson)])

end Filter

end ChatTriage

import ChatTriage.Filter.Document
import ChatTriage.Message

/-!
# Message documents

The written form of messages, as stores keep them and as webhooks receive them, and the reading of
such documents.
-/

namespace ChatTriage

/-- The status that a value names. -/
def Status.ofJson (raw : Json) : Except Fault Status :=
  match raw.text? >>= Status.ofName? with
  | some s => .ok s
  | none => .error (.value (.notMember raw .status))

/-- The written form of a sender. -/
def Sender.toJson (s : Sender) : Json :=
  .obj [("phoneNumber", .str s.phone), ("name", s.name), ("profileName", s.profileName)]

namespace Media

/-- The written form of a file. -/
def toJson (m : Media) : Json :=
  .obj [("url", m.url), ("mimeType", m.mimeType), ("fileName", m.fileName),
    ("fileSize", m.fileSize)]

/-- A file, if there is one. -/
def ofJson (raw : Json) : Except Fault (Option Media) := do
  if !raw.truthy then return none
  return some {
    url := ← raw.get "url", mimeType := ← raw.get "mimeType", fileName := ← raw.get "fileName"
    fileSize := ← raw.get "fileSize" }

end Media

namespace Location

/-- The written form of a place. -/
def toJson (l : Location) : Json :=
  .obj [("latitude", l.latitude), ("longitude", l.longitude), ("name", l.name),
    ("address", l.address)]

/-- A place, if there is one. -/
def ofJson (raw : Json) : Except Fault (Option Location) := do
  if !raw.truthy then return none
  return some {
    latitude := ← raw.get "latitude", longitude := ← raw.get "longitude", name := ← raw.get "name"
    address := ← raw.get "address" }

end Location

/-- The written form of content. -/
def Content.toJson (c : Content) : Json :=
  .obj [
    ("type", .str c.type.name),
    ("text", c.text),
    ("media", match c.media with | some m => m.toJson | none => .null),
    ("location", match c.location with | some l => l.toJson | none => .null)]

/-- A group chat, if there is one. -/
def Group.ofJson (raw : Json) : Except Fault (Option Group) := do
  if !raw.truthy then return none
  return some { name := ← raw.field "name", id := ← raw.get "id" }

/-- The written form of a group chat. -/
def Group.toJson (g : Group) : Json :=
  .obj [("name", g.name), ("id", g.id)]

namespace Metadata

/-- The written form of the notes on a message. -/
def toJson (m : Metadata) : Json :=
  .obj [
    ("isImportant", .bool m.important),
    ("priority", .str m.priority.name),
    ("tags", .arr m.tags),
    ("notes", m.notes),
    ("source", m.source),
    ("groupInfo", match m.group with | some g => g.toJson | none => .null)]

/-- The notes on a message; `group` is the value given for the group chat. -/
def ofJson (raw group : Json) : Except Fault Metadata := do
  return {
    important := (← raw.get "isImportant").truthy
    priority := ← Priority.ofJson ((← raw.get "priority").orElse (.str "medium"))
    tags := ← (← raw.get "tags").elementsOrNone
    notes := ← raw.get "notes"
    source := ← raw.get "source"
    group := ← Group.ofJson group }

end Metadata

namespace Message

/-- The written form of a message at a date. -/
def document (m : Message) (timestamp : String) : Json :=
  .obj [
    ("messageId", .str m.id),
    ("from", m.sender.toJson),
    ("to", if m.recipient.truthy then .obj [("phoneNumber", m.recipient)] else .null),
    ("content", m.content.toJson),
    ("timestamp", .str timestamp),
    ("status", .str m.status.name),
    ("metadata", m.metadata.toJson)]

/-- The written form of a message. -/
def toJson (m : Message) : Except Fault Json :=
  m.timestampText.map m.document

/-- The message that a document describes, with a version. -/
def ofJson (raw : Json) (version : Version) : Except Fault Message := do
  let sender := (← raw.get "from").orElse (.obj [])
  let recipient := (← raw.get "to").orElse (.obj [])
  let content := (← raw.get "content").orElse (.obj [])
  let metadata := (← raw.get "metadata").orElse (.obj [])
  let media ← content.get "media"
  let location ← content.get "location"
  let group ← metadata.get "groupInfo"
  let id := (← raw.field "messageId").shown
  let phone := shownOrBlank (← sender.get "phoneNumber")
  let name ← sender.get "name"
  let profileName ← sender.get "profileName"
  let recipient ← recipient.get "phoneNumber"
  let type ← ContentType.ofJson ((← content.get "type").orElse (.str "text"))
  let text ← content.get "text"
  let media ← Media.ofJson media
  let location ← Location.ofJson location
  let timestamp ← DateTime.ofJson (← raw.field "timestamp")
  let status ← Status.ofJson ((← raw.get "status").orElse (.str "received"))
  let metadata ← Metadata.ofJson metadata group
  return {
    id, sender := { phone, name, profileName }, content := { type, text, media, location }
    timestamp, recipient, status, metadata, version }

end Message

end ChatTriage

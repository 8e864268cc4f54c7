import ChatTriage.Message.Document

/-!
# Messages from the cloud provider

A delivery of the provider holds entries, an entry changes, and a change of the field `messages`
some messages. They are mapped one after the other; what was mapped before a fault has already been
handed on.
-/

namespace ChatTriage.Inbound

/-- The messages of a delivery in order, and the fault that ended them, if one did. -/
structure Batch where
  messages : List Message := []
  stop : Option Fault := none
  deriving DecidableEq, Repr

namespace Batch

/-- One batch after another, unless the first ended in a fault. -/
def append (a b : Batch) : Batch :=
  match a.stop with
  | some _ => a
  | none => ⟨a.messages ++ b.messages, b.stop⟩

/-- A batch that ends at once. -/
def failed (f : Fault) : Batch := ⟨[], some f⟩

/-- One message, or the fault of its mapping. -/
def single : Except Fault Message → Batch
  | .ok m => ⟨[m], none⟩
  | .error f => failed f

/-- The batches of values, one after the other. -/
def concat {α : Type} (f : α → Batch) : List α → Batch
  | [] => {}
  | x :: xs => (f x).append (concat f xs)

/-- The batches of the elements of a value, none for an empty one. -/
def overElements (x : Except Fault Json) (f : Json → Batch) : Batch :=
  match x >>= Json.elementsOrNone with
  | .ok xs => concat f xs
  | .error e => failed e

end Batch

namespace Cloud

/-- The source of the provider's messages. -/
def source : String := "cloud"

/-- The content type that the provider names; an unknown one counts as text. -/
def contentType (raw : Json) : ContentType :=
  match (raw.orElse (.str "text")).text? >>= ContentType.ofName? with
  | some t => t
  | none => .text

/-- The content types that come with a file. -/
def mediaTypes : List String := ["image", "document", "audio", "video", "sticker"]

/-- The content type, if it comes with a file. -/
def mediaType? (raw : Json) : Except Fault (Option String) :=
  match raw with
  | .str s => .ok (if mediaTypes.contains s then some s else none)
  | raw => if raw.hashable then .ok none else .error (.wrongKind (.unhashable raw.kindName))

/-- The profile name of the first contact. -/
def profileName (value : Json) : Except Fault Json := do
  let contacts := (← value.get "contacts").orElse (.arr [])
  if !contacts.truthy then return .null
  ((← (← contacts.first).get "profile").orElse (.obj [])).get "name"

/-- The file that comes with a message. -/
def media (raw : Json) : Except Fault Media := do
  return {
    url := ← raw.get "link", mimeType := ← raw.get "mime_type", fileName := ← raw.get "filename"
    fileSize := ← raw.get "file_size" }

/-- The place that comes with a message. -/
def location (raw : Json) : Except Fault Location := do
  return {
    latitude := ← raw.get "latitude", longitude := ← raw.get "longitude", name := ← raw.get "name"
    address := ← raw.get "address" }

/-- The date that lies a number of seconds after the start of 1970. -/
def dateOfSeconds (n : Int) : Except Fault DateTime :=
  if !Number.inSignedWord 63 n then .error (.range .timestamp)
  else if n < -67768040609740800 || 67768036191676799 < n then .error .system
  else match Wall.of? (n * Time.second + (719162 * Time.day : Nat)) with
    | some wall => .ok ⟨wall, some .zero⟩
    | none => .error (.value (.year "year is out of range"))

/-- The destination number of a message. -/
def recipient (raw value : Json) : Except Fault Json := do
  let own ← raw.get "to"
  if own.truthy then return own
  ((← value.get "metadata").orElse (.obj [])).get "display_phone_number"

/-- The text of a message, or the caption of its file. -/
def text (raw : Json) (fileType : Option String) : Except Fault Json := do
  let body ← ((← raw.get "text").orElse (.obj [])).get "body"
  match body, fileType with
  | .null, some type => ((← raw.get type).orElse (.obj [])).get "caption"
  | body, _ => return body

/-- The message that one item of a change describes. -/
def message (raw value : Json) : Except Fault Message := do
  let type := contentType (← raw.get "type")
  let fileType ← mediaType? (← raw.get "type")
  let media ← match fileType with
    | some t => some <$> media ((← raw.get t).orElse (.obj []))
    | none => pure none
  let location ←
    if fileType.isNone && type = .location then
      some <$> location ((← raw.get "location").orElse (.obj []))
    else pure none
  let text ← text raw fileType
  let name ← profileName value
  let id := shownOrBlank (← raw.get "id")
  let phone := shownOrBlank (← raw.get "from")
  let recipient ← recipient raw value
  let seconds ← ((← raw.get "timestamp").orElse (.int 0)).toInt
  let timestamp ← dateOfSeconds seconds
  return {
    id, sender := { phone, name, profileName := name }, recipient
    content := { type, text, media, location }, timestamp := some timestamp
    metadata := { source := .str source } }

/-- The messages of a change. -/
def ofChange (change : Json) : Batch :=
  match change.get "field" with
  | .error f => .failed f
  | .ok field =>
    if field = .str "messages" then
      match change.get "value" with
      | .error f => .failed f
      | .ok value =>
        let value := value.orElse (.obj [])
        Batch.overElements (value.get "messages") fun raw => .single (message raw value)
    else {}

/-- The messages of a delivery. -/
def messages (body : Json) : Batch :=
  match body.get "object" with
  | .error f => .failed f
  | .ok object =>
    if object = .str "whatsapp_business_account" then
      Batch.overElements (body.get "entry") fun entry =>
        Batch.overElements (entry.get "changes") ofChange
    else {}

end Cloud

end ChatTriage.Inbound

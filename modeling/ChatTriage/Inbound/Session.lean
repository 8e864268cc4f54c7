import ChatTriage.Message.Document

/-!
# Messages from a logged-in session

A message of the session, its sender and its chat are records of which any part may be missing. A
sender whose number is hidden is addressed by the id of the user.
-/

namespace ChatTriage.Inbound.Session

/-- A part of a record; null if it is missing. -/
def part (x : Json) (name : String) : Json :=
  match x with
  | .obj fields => (Json.find? fields name).getD .null
  | _ => .null

/-- A record is never empty; any other value is judged as such. -/
def isThere : Json → Bool
  | .obj _ => true
  | x => x.truthy

/-- The source of the session's messages. -/
def source : String := "session"

/-- The first of two values that is there. -/
def firstOf (x y : Json) : Json :=
  if isThere x then x else y

/-- The first and the last name, joined. -/
def fullName (first last : Json) : Except Fault Json :=
  let parts := [first, last].filter isThere
  match (parts.zipIdx.find? fun (x, _) => x.text?.isNone) with
  | some (x, i) => .error (.wrongKind (.notJoinable i x.kindName))
  | none => .ok (.str (" ".intercalate (parts.filterMap Json.text?)))

/-- How a sender is addressed: by number, with a plus sign, or by user id. -/
def address (phone : Json) (id : Option Json) : String :=
  if isThere phone then
    if phone.shown.startsWith "+" then phone.shown else "+" ++ phone.shown
  else "id:" ++ (match id with | some x => x.shown | none => "")

/-- The id of a record, if it has one. -/
def id? (x : Json) : Option Json :=
  match x with
  | .obj fields => Json.find? fields "id"
  | _ => none

/-- What a sender's address is written from: the number, or the id of the user. -/
def contact (entity : Json) : Json :=
  firstOf (part entity "phone") ((id? entity).getD (.str ""))

/-- The address of a sender, unless it is too long to be written. -/
def writtenAddress (entity : Json) : Except Fault String :=
  if (contact entity).writable then .ok (address (part entity "phone") (id? entity))
  else .error (.value .unwritable)

/-- The sender that a record describes. -/
def sender (entity : Json) : Except Fault Sender := do
  let joined ← fullName (part entity "first_name") (part entity "last_name")
  let name := firstOf (firstOf joined (part entity "title")) .null
  return {
    phone := ← writtenAddress entity
    name
    profileName := firstOf (part entity "username") name }

/-- What a message carries. Stickers, voice notes and videos are documents too, so the order
counts. -/
def contentType (x : Json) : ContentType :=
  let has (name : String) : Bool := isThere (part x name)
  if has "sticker" then .sticker
  else if has "photo" then .image
  else if has "video" || has "gif" then .video
  else if has "voice" || has "audio" then .audio
  else if has "geo" then .location
  else if has "contact" then .contact
  else if has "document" then .document
  else .text

/-- The file of a message. -/
def media (x : Json) : Option Media :=
  match part x "file" with
  | .null => none
  | file => some {
      mimeType := part file "mime_type", fileName := part file "name",
        fileSize := part file "size" }

/-- The place of a message. -/
def location (x : Json) : Option Location :=
  match part x "geo" with
  | .null => none
  | geo => some { latitude := part geo "lat", longitude := part geo "long" }

/-- The group chat that a message was sent to. -/
def group (x : Json) : Option Group :=
  if isThere (part x "is_group") then
    some ⟨firstOf (part (part x "chat") "title") (.str "unknown"), .str (part x "chat_id").shown⟩
  else none

/-- The content of a message. -/
def content (x : Json) : Content :=
  let type := contentType x
  { type
    text := firstOf (part x "raw_text") .null
    media := if type = .text || type = .location then none else media x
    location := if type = .location then location x else none }

/-- The id of a message: the chat and the number of the message in it. -/
def messageId (chat message : Json) : Except Fault String :=
  return (← chat.written) ++ ":" ++ (← message.written)

/-- The message that a record describes, dated as given. -/
def message (x : Json) (timestamp : Option DateTime) : Except Fault Message := do
  let sender ← sender (part x "sender")
  let id ← messageId (part x "chat_id") (part x "id")
  return {
    id, sender, content := content x, timestamp
    metadata := { source := .str source, group := group x } }

/-- Which group chats are listened to: all of them, or those with certain names. -/
structure GroupSelector where
  all : Bool
  names : List String
  deriving DecidableEq, Repr

namespace GroupSelector

/-- The selector for some names; blank ones are left out. -/
def of (all : Bool) (names : List String) : GroupSelector :=
  ⟨all, (names.map Text.trim).filter fun n => !n.isEmpty⟩

/-- The selector for names that come as a value: the elements of it, each of which has to be a
text. -/
def ofJson (all : Bool) (names : Json) : Except Fault GroupSelector := do
  return of all (← (← names.elements).mapM (·.asText "strip"))

/-- Messages of a group with a name are listened to. -/
def accepts (s : GroupSelector) (name : Json) : Except Fault Bool :=
  if s.all then .ok true
  else if !name.truthy then .ok false
  else match name with
    | .str n => .ok (s.names.contains n)
    | name => if name.hashable then .ok false else .error (.wrongKind (.unhashable name.kindName))

end GroupSelector

end ChatTriage.Inbound.Session

import ChatTriage.Matching
import ChatTriage.Message.Document

/-!
# Forwarded messages

The text of a forwarded message is the same on every channel: a plain header and the text, or, when
a filter caused it, a block labelled with the filter's name. Webhooks get a document around it.
-/

namespace ChatTriage.Forwarding

/-- What stands for a text that is missing. -/
def noText : String := "[message without text]"

def headerDivider : String := String.ofList (List.replicate 35 '═')

def bodyDivider : String := String.ofList (List.replicate 30 '─')

/-- The sender with name and number, or with the number alone. -/
def senderText (m : Message) : String :=
  if m.sender.name.truthy then m.sender.name.shown ++ " (" ++ m.sender.phone ++ ")"
  else m.sender.phone

/-- The time of a message on the clock of a zone. -/
def timeText (m : Message) (zone : Zone) : Except Fault String :=
  (localWall m.timestamp zone).map Wall.longText

/-- The text of a message, or what stands for it. -/
def body (m : Message) : Json :=
  m.content.text.orElse (.str noText)

/-- The text of a message that is passed on without a label. -/
def plainText (m : Message) : String :=
  "Forwarded from " ++ senderText m ++ "\n\n" ++ (body m).shown

/-- The lines above the text of a labelled message. -/
def labelLines (m : Message) (label : Json) (time : String) : List String :=
  ["🚨 FILTER TRIGGERED: **" ++ label.shown ++ "**", headerDivider] ++
  (match m.metadata.group with
    | some g => ["👥 **Group:** " ++ g.name.shown]
    | none => []) ++
  (if m.sender.name.truthy then
    ["👤 **From:** " ++ m.sender.name.shown, "📱 **Number:** " ++ m.sender.phone]
  else ["📱 **From:** " ++ m.sender.phone]) ++
  ["⏰ **When:** " ++ time, bodyDivider, "", "💬 **Message:**"]

/-- The text of a message that a filter passed on. -/
def labelledText (m : Message) (label : Json) (zone : Zone) : Except Fault String := do
  let lines := labelLines m label (← timeText m zone)
  match body m with
  | .str text => return "\n".intercalate (lines ++ [text])
  | text => throw (.wrongKind (.notJoinable lines.length text.kindName))

/-- The text of a forwarded message; an empty label counts as none. -/
def text (m : Message) (label : Json) (zone : Zone) : Except Fault String :=
  if label.truthy then labelledText m label zone else .ok (plainText m)

/-- The document that a webhook receives for a forwarded message. -/
def payload (m : Message) (destination label : Json) (zone : Zone) : Except Fault Json := do
  let timestamp ← m.timestampText
  let text ← text m label zone
  return .obj [
    ("type", .str "forward"),
    ("destination", destination),
    ("filter", label),
    ("text", .str text),
    ("originalMessage", .obj [
      ("id", .str m.id),
      ("from", m.sender.toJson),
      ("content", m.content.toJson),
      ("timestamp", .str timestamp)])]

end ChatTriage.Forwarding

import ChatTriage.Rehearsal

/-!
# Scripts

The written form of what a rehearsal is told beforehand: the answers of servers, how calls of the
session's client end, and how stages behave. A record that leaves a part out leaves it as it was.
-/

namespace ChatTriage.Rehearsal

/-- The items of a list; anything else has none. -/
def items (x : Json) : List Json :=
  match x with
  | .arr xs => xs
  | _ => []

/-- A part of a record, if it is there. -/
def part? (x : Json) (name : String) : Option Json :=
  match x with
  | .obj fields => Json.find? fields name
  | _ => none

/-- A part of a record, null if it is missing. -/
def part (x : Json) (name : String) : Json :=
  (part? x name).getD .null

/-- A part of a record that is read in one way, or what it was before. -/
def revised {α : Type} (record : Json) (name : String) (read : Json → α) (before : α) : α :=
  match part? record name with
  | some x => read x
  | none => before

/-- The text of a value, none for null. -/
def text? (x : Json) : Option String :=
  if x = .null then none else some x.shown

/-- The fields of a record as texts. -/
def textPairs (x : Json) : List (String × String) :=
  match x with
  | .obj fields => fields.map fun (name, value) => (name, value.shown)
  | _ => []

/-- The bytes that pairs of hexadecimal digits write. -/
def hexBytes : List Char → List Nat
  | a :: b :: rest =>
    match Text.hexDigit? a, Text.hexDigit? b with
    | some high, some low => (high * 16 + low) :: hexBytes rest
    | _, _ => hexBytes rest
  | _ => []

/-- The body of an answer: bytes in hexadecimal digits, or a text. -/
def bodyOf (record : Json) : List Nat :=
  match part? record "hex", part? record "body" with
  | some (.str digits), _ => hexBytes (digits.toList.filter (!Text.isBlank ·))
  | _, some (.str text) => Text.encodeUtf8 text
  | _, _ => []

/-- The answer of a server that a record describes. -/
def answerOf (record : Json) : Channel.HttpAnswer :=
  match part? record "url_error", part? record "http_error" with
  | some (.str reason), _ => .unreachable reason
  | _, some (.int status) => .failure status ((text? (part record "reason")).getD "")
      (bodyOf record)
  | _, _ => .success (bodyOf record)

/-- How a call of a kind ends. -/
def Ending.ofJson (kind : String) (x : Json) : Ending :=
  match x with
  | .str "password" => .passwordNeeded
  | .str "timeout" => .timeout
  | .str "fail" => .failure (kind ++ " failed")
  | _ => .fine

/-- How the calls of a kind end, one after the other. -/
def endings (kind : String) (x : Json) : List Ending :=
  (items x).map (Ending.ofJson kind)

/-- A client with what a record says about it. -/
def Client.revise (c : Client) (record : Json) : Client where
  connected := revised record "connected" Json.truthy c.connected
  authorized := revised record "authorized" (fun x => (items x).map Json.truthy) c.authorized
  waits := revised record "wait" (endings "wait") c.waits
  codes := revised record "code" (endings "code") c.codes
  signIns := revised record "signIn" (endings "signIn") c.signIns
  qrUrl := revised record "qrUrl" Json.shown c.qrUrl
  failing := revised record "failing" textPairs c.failing
  sentId := (part? record "sentId").or c.sentId

/-- A stage with what a record says about it; its name stays. -/
def Stage.revise (s : Stage) (record : Json) : Stage where
  name := s.name
  available := revised record "available" Json.truthy s.available
  broken := revised record "availabilityError" text? s.broken
  failing := revised record "failing" textPairs s.failing

end ChatTriage.Rehearsal

import ChatTriage.Rehearsal

/-!
# Transcripts

The JSON form of what left the program in a rehearsal, gathered by where it went: to a server, to
the session's client, or to a stage.
-/

namespace ChatTriage.Rehearsal

/-- What a client is asked while logging in; asking whether it is authorized leaves no trace. -/
def loginDocument : Login.Request → List Json
  | .isAuthorized => []
  | .requestQr => [.str "qr_login"]
  | .awaitScan seconds => [.str "wait", .int seconds]
  | .requestCode phone => [.str "send_code_request", .str phone]
  | .signIn (.code phone code) => [.str "sign_in", .str phone, .str code, .null]
  | .signIn (.password password) => [.str "sign_in", .null, .null, .str password]
  | .profile => [.str "get_me"]

/-- The document of an entity. -/
def entityDocument : Channel.Entity → Json
  | .user id => .int id
  | .number text => .str text

/-- The document of a call. -/
def Call.toJson : Call → Json
  | .create a =>
    .arr [.str "TelegramClient", .str a.session, .int a.applicationId, .str a.applicationHash]
  | .connect => .arr [.str "connect"]
  | .disconnect => .arr [.str "disconnect"]
  | .listen => .arr [.str "on", .str "NewMessage", .bool true]
  | .login request => .arr (loginDocument request)
  | .deliver entity text => .arr [.str "send_message", entityDocument entity, text]
  | .reply text _ => .arr [.str "reply", .str text]

/-- The document of a request to a server. -/
def requestDocument (r : Channel.HttpRequest) : Json :=
  .obj [
    ("method", .str (if r.body.isSome then "POST" else "GET")),
    ("url", .str r.address.text),
    ("headers", .obj (r.headers.map fun (name, value) => (name, .str value))),
    ("body", .ofText? r.body)]

/-- The name of a stage with its line before it. -/
def stagePlace (line : Nat) (stage : String) : String :=
  toString line ++ ":" ++ stage

/-- Where something went. -/
def Happening.place : Happening → String
  | .exchange r =>
      if r.address.host = some Channel.Cloud.server then "http:cloud" else "http:webhook"
  | .call _ => "session"
  | .send line stage _ _ | .forward line stage _ _ _ => stagePlace line stage

/-- The document of something that left the program. -/
def Happening.toJson : Happening → Json
  | .exchange r => requestDocument r
  | .call c => c.toJson
  | .send _ _ destination text => .arr [.str "send", destination, text]
  | .forward _ _ id destination label => .arr [.str "forward", .str id, destination, label]

/-- Something arrived; a reply may not have. -/
def Happening.arrived : Happening → Bool
  | .call (.reply _ arrived) => arrived
  | _ => true

/-- Puts a document behind those that went to the same place. -/
def gather (places : List (String × List Json)) (h : Happening) : List (String × List Json) :=
  if places.any (·.1 == h.place) then
    places.map fun (place, documents) =>
      (place, if place == h.place then documents ++ [h.toJson] else documents)
  else places ++ [(h.place, [h.toJson])]

/-- What arrived, by where it went. -/
def transcript (happened : List Happening) : Json :=
  let places := (happened.filter Happening.arrived).foldl gather []
  .obj (places.map fun (place, documents) => (place, .arr documents))

end ChatTriage.Rehearsal

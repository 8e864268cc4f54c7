import ChatTriage.Desk.Request
import ChatTriage.Text.Blank
import ChatTriage.Text.Utf8

/-!
# What channels ask for

Channels exchange requests and answers with servers, look at the clock, and send through the
session's client.
-/

namespace ChatTriage.Channel

/-- An address on the network: its text, and the server's name if it has one. -/
structure Address where
  text : String
  host : Option String
  deriving DecidableEq, Repr

namespace Address

/-- A text without angle brackets or a leading `URL:` around an address. -/
def unwrap (cs : List Char) : List Char :=
  let cs := Text.trimChars cs
  let cs := match cs with
    | '<' :: rest =>
      if rest.getLast? = some '>' then Text.trimChars rest.dropLast else cs
    | cs => cs
  match cs with
  | 'U' :: 'R' :: 'L' :: ':' :: rest => Text.trimChars rest
  | cs => cs

/-- What stands after the scheme of an address. -/
def afterScheme? (cs : List Char) : Option (List Char) :=
  let scheme := cs.takeWhile fun c => c ≠ '/' && c ≠ ':'
  match cs.drop scheme.length with
  | ':' :: rest => if scheme.isEmpty then none else some rest
  | _ => none

/-- An address up to its last number sign, and the fragment behind that. -/
def splitFragment (cs : List Char) : List Char × List Char :=
  let fragment := (cs.reverse.takeWhile (· ≠ '#')).reverse
  if fragment.length = cs.length then (cs, [])
  else (cs.take (cs.length - fragment.length - 1), fragment)

/-- The server that an address names after its scheme. -/
def host? (cs : List Char) : Option String :=
  match cs with
  | '/' :: '/' :: rest =>
      some (Text.unpercent (rest.takeWhile fun c => c ≠ '/' && c ≠ '#' && c ≠ '?'))
  | _ => none

/-- The address that a text gives; it needs a scheme before any fragment, and an empty fragment is
dropped. -/
def of (text : String) : Except Fault Address :=
  let (cs, fragment) := splitFragment (unwrap text.toList)
  let written := String.ofList (if fragment.isEmpty then cs else cs ++ '#' :: fragment)
  match afterScheme? cs with
  | none => .error (.value (.address written))
  | some rest => .ok ⟨written, host? rest⟩

end Address

/-- A request to a server: one without a body fetches, one with a body posts. -/
structure HttpRequest where
  address : Address
  headers : List (String × String)
  body : Option String
  deriving DecidableEq, Repr

/-- How a server answers, if it can be reached. -/
inductive HttpAnswer where
  | success (body : List Nat)
  | failure (status : Int) (reason : String) (body : List Nat)
  | unreachable (reason : String)
  deriving DecidableEq, Repr

/-- Whom the session's client sends to: a user by id, or a phone number. -/
inductive Entity where
  | user (id : Int)
  | number (text : String)
  deriving DecidableEq, Repr

/-- An entity in a message. -/
def Entity.text : Entity → String
  | .user id => toString id
  | .number s => s

/-- What channels can ask for. -/
inductive Request where
  | exchange (request : HttpRequest)
  | now
  | connected
  | deliver (entity : Entity) (text : Json)

/-- What each request is answered with. A delivery is answered with the id of what was sent, if it
has one, or with the wording of a failure. -/
def Request.Answer : Request → Type
  | .exchange _ => HttpAnswer
  | .now => DateTime
  | .connected => Bool
  | .deliver _ _ => Except String (Option Json)

/-- The surroundings of a channel. -/
def service : Service := ⟨Request, Request.Answer⟩

/-- Asks a request. -/
def ask (q : Request) : Dialogue service (Request.Answer q) :=
  Dialogue.request (S := service) q

/-- What a server answered, read as JSON. -/
def readBody (body : List Nat) (ifEmpty : String) : Except Fault Json :=
  match Text.decodeUtf8 body with
  | .error cause => .error (.bytes cause)
  | .ok text =>
    match Json.read (if text.isEmpty then ifEmpty else text) with
    | .ok x => .ok x
    | .error refusal => .error (.json refusal)

end ChatTriage.Channel

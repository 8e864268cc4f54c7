import ChatTriage.Desk.Request
import ChatTriage.Inbound.Session
import ChatTriage.Proofs.Message.Document
import ChatTriage.Proofs.Phone

/-!
# Senders with a hidden number

A sender whose number is hidden is addressed by user id, and numbers are compared by their digits
alone: the mark in front of the id goes unnoticed. `isAdmin_of_hidden_iff` says who may give
commands therefore: those whose user id has the digits of an operator's number.
-/

namespace ChatTriage.Inbound.Session

/-- The id of a user as it is written, nothing if the record has none. -/
def userId (entity : Json) : String :=
  match id? entity with
  | some x => x.shown
  | none => ""

/-- The mark of a user id is no digit. -/
lemma digits_marked (id : String) : Phone.digits (.str ("id:" ++ id)) = Phone.digitsOf id := by
  have mark : Phone.digitsOf "id:" = "" := by decide
  show Phone.digitsOf ("id:" ++ id) = Phone.digitsOf id
  rw [Phone.digitsOf_append, mark, String.empty_append]

/-- Without a phone number the address is the id. -/
lemma address_of_hidden {entity : Json} (hidden : isThere (part entity "phone") = false) :
    address (part entity "phone") (id? entity) = "id:" ++ userId entity := by
  unfold address userId
  rw [hidden]
  rfl

/-- The sender of a message of the session is addressed by number or by user id. -/
lemma sender_phone {entity : Json} {s : Sender} (described : sender entity = .ok s) :
    s.phone = address (part entity "phone") (id? entity) := by
  obtain ⟨joined, -, rest⟩ := bind_eq_ok_iff.mp described
  obtain ⟨address, written, last⟩ := bind_eq_ok_iff.mp rest
  cases last
  unfold writtenAddress at written
  split at written <;> cases written
  rfl

/-- A message has the sender of its event. -/
lemma message_sender {x : Json} {timestamp : Option DateTime} {m : Message}
    (described : message x timestamp = .ok m) : sender (part x "sender") = .ok m.sender := by
  obtain ⟨s, found, rest⟩ := bind_eq_ok_iff.mp described
  obtain ⟨id, -, last⟩ := bind_eq_ok_iff.mp rest
  cases last
  exact found

/-- A sender with a hidden number is addressed by user id, and may give commands just when the id
has the digits of an operator's number. -/
theorem isAdmin_of_hidden_iff {x : Json} {timestamp : Option DateTime} {m : Message}
    {c : Desk.Config}
    {numbers : List Json} (hidden : isThere (part (part x "sender") "phone") = false)
    (described : message x timestamp = .ok m) (listed : c.admins = .of numbers) :
    m.sender.phone = "id:" ++ userId (part x "sender") ∧
      (c.isAdmin m = true ↔ Phone.digitsOf (userId (part x "sender")) ≠ "" ∧
        ∃ n ∈ numbers, Phone.digits n = Phone.digitsOf (userId (part x "sender"))) := by
  have addressed : m.sender.phone = "id:" ++ userId (part x "sender") := by
    rw [sender_phone (message_sender described), address_of_hidden hidden]
  refine ⟨addressed, ?_⟩
  unfold Desk.Config.isAdmin
  rw [listed, addressed, Phone.AllowList.allows_of_iff, digits_marked]

namespace Sample

/-- A message of a user without a number, whose id has the digits of an operator's number. -/
def stranger : Json :=
  .obj [("chat_id", .int 5), ("id", .int 1), ("raw_text", .str "help"),
    ("sender", .obj [("id", .int 393470000001), ("first_name", .str "Eve")])]

/-- The only operator's number. -/
def operator : Json :=
  .str "+39 347 000 0001"

/-- The message as the desk gets it. -/
def plea : Message where
  id := "5:1"
  sender := { phone := "id:393470000001", name := .str "Eve", profileName := .str "Eve" }
  content := { type := .text, text := .str "help" }
  timestamp := none
  metadata := { source := .str "session" }

/-- A desk that takes commands from the operator. -/
def desk : Desk.Config :=
  { routes := [], admins := .of [operator], zone := .utc }

end Sample

open Sample in
/-- A user whose id has the digits of the operator's number is taken for the operator. -/
theorem isAdmin_of_stranger :
    isThere (part (part stranger "sender") "phone") = false ∧ message stranger none = .ok plea ∧
      desk.isAdmin plea = true := by
  have hidden : isThere (part (part stranger "sender") "phone") = false := by decide
  have described : message stranger none = .ok plea := by decide +kernel
  have digits : Phone.digitsOf (userId (part stranger "sender")) = "393470000001" := by
    decide +kernel
  refine ⟨hidden, described, ((isAdmin_of_hidden_iff hidden described rfl).2).mpr ?_⟩
  rw [digits]
  exact ⟨by decide, operator, List.mem_singleton.mpr rfl, by decide +kernel⟩

end ChatTriage.Inbound.Session

import ChatTriage.Proofs.Channel.Destination
import ChatTriage.Proofs.Desk.Dispatch
import ChatTriage.Proofs.Inbound.Session
import ChatTriage.Proofs.Office.Run

/-!
# Answering the senders of a session

A sender of the session is written down as a user's id behind a mark, or as a number with a plus
sign, and the session's channel reads such an address back (`Channel.Session.resolve_phone`). So
what is sent in answer to a message goes to whom the message came from:
`Inbound.Session.sender_is_answered`.
-/

namespace ChatTriage

open Channel (Entity)

namespace Inbound.Session

/-- Whom the record of a sender stands for: a user by id if the number is hidden, and otherwise the
number if it has enough digits, whether it comes with a plus sign or without one. -/
inductive Designates (entity : Json) : Entity → Prop where
  | user {n : Nat} :
    isThere (part entity "phone") = false →
    id? entity = some (.int n) →
    Designates entity (.user n)
  | number {digits} :
    (∀ c ∈ digits, Text.isDecimal c = true) →
    Phone.minDigits ≤ digits.length →
    part entity "phone" = .str (String.ofList digits) ∨
      part entity "phone" = .str (String.ofList ('+' :: digits)) →
    Designates entity (.number (String.ofList ('+' :: digits)))

/-- The parts of a name are texts as far as they are there. -/
def Nameable (entity : Json) : Prop :=
  ∀ x ∈ [part entity "first_name", part entity "last_name"], isThere x = true → ∃ text,
    x = .str text

variable {entity : Json} {s : Sender} {whom : Entity} {digits : List Char}

/-- A name is made up of texts. -/
lemma exists_fullName_iff {first last : Json} :
    (∃ name, fullName first last = .ok name) ↔
      ∀ x ∈ [first, last], isThere x = true → ∃ text, x = .str text := by
  have joins : (∃ name, fullName first last = .ok name) ↔
      ([first, last].filter isThere).zipIdx.find? (·.1.text?.isNone) = none := by
    unfold fullName
    simp only
    split
    · rename_i found
      simp [found]
    · rename_i found
      simp [found]
  rw [joins, List.find?_eq_none]
  constructor
  · intro texts x member there
    obtain ⟨i, place⟩ := List.mem_iff_getElem?.mp (List.mem_filter.mpr ⟨member, there⟩)
    have some := texts (x, i) (List.mem_zipIdx_iff_getElem?.mpr place)
    cases x with
    | str text => exact ⟨text, rfl⟩
    | _ => exact absurd rfl some
  · rintro texts ⟨x, i⟩ place
    obtain ⟨member, there⟩ := List.mem_filter.mp (List.fst_mem_of_mem_zipIdx place)
    obtain ⟨text, rfl⟩ := texts x member there
    exact Bool.false_ne_true

/-- A record describes a sender when its name can be joined and its address written. -/
lemma exists_sender_iff :
    (∃ s, sender entity = .ok s) ↔ Nameable entity ∧ (contact entity).writable = true := by
  rw [Nameable, ← exists_fullName_iff]
  constructor
  · rintro ⟨s, described⟩
    obtain ⟨joined, named, rest⟩ := bind_eq_ok_iff.mp described
    obtain ⟨written, addressed, -⟩ := bind_eq_ok_iff.mp rest
    refine ⟨⟨joined, named⟩, ?_⟩
    unfold writtenAddress at addressed
    split at addressed
    · assumption
    · cases addressed
  · rintro ⟨⟨joined, named⟩, short⟩
    have addressed : writtenAddress entity = .ok (address (part entity "phone") (id? entity)) := by
      rw [writtenAddress, if_pos short]
    exact ⟨_, bind_eq_ok_iff.mpr ⟨joined, named, bind_eq_ok_iff.mpr ⟨_, addressed, rfl⟩⟩⟩

/-- The contact of a sender can be written to. -/
lemma writable_of_sender (described : sender entity = .ok s) : (contact entity).writable = true :=
  (exists_sender_iff.mp ⟨s, described⟩).2

/-- A number is written with a plus sign, whether it comes with one or not. -/
lemma address_of_digits {id : Option Json} (decimal : ∀ c ∈ digits, Text.isDecimal c = true)
    (some : digits ≠ []) {phone : Json}
    (given : phone = .str (String.ofList digits) ∨ phone = .str (String.ofList ('+' :: digits))) :
    address phone id = String.ofList ('+' :: digits) := by
  obtain rfl | rfl := given
  · have there : isThere (.str (String.ofList digits)) = true := by
      simpa [isThere, Json.truthy] using some
    have bare : (String.ofList digits).startsWith "+" = false := by
      rw [String.startsWith_string_eq_false_iff]
      rintro ⟨rest, same⟩
      simp only [String.toList_ofList] at same
      exact absurd (decimal '+' (same ▸ List.mem_cons_self)) (by decide)
    unfold address
    rw [there, Json.shown_str, bare]
    simp
  · have there : isThere (.str (String.ofList ('+' :: digits))) = true := by
      simp [isThere, Json.truthy]
    have signed : (String.ofList ('+' :: digits)).startsWith "+" = true := by
      rw [String.startsWith_string_iff]
      exact ⟨digits, (String.toList_ofList).symm⟩
    unfold address
    rw [there, Json.shown_str, signed]
    rfl

/-- The address of a user with a hidden number is the id behind a mark. -/
lemma address_of_user {n : Nat} (hidden : isThere (part entity "phone") = false)
    (known : id? entity = some (.int n)) :
    address (part entity "phone") (id? entity) =
      String.ofList (Channel.Session.userMark ++ Nat.toDigits 10 n) := by
  have shown : (Json.int n).shown = String.ofList (Nat.toDigits 10 n) := rfl
  rw [address_of_hidden hidden, userId, known, String.ofList_append]
  simp only [shown]
  rfl

end Inbound.Session

namespace Channel.Session

/-- The id of a user is read back from an address. -/
lemma resolve_user {n : Nat} (short : (Nat.toDigits 10 n).length ≤ Number.maxDigits) :
    resolve (String.ofList (userMark ++ Nat.toDigits 10 n)) = .ok (.user n) := by
  have digits (c : Char) (member : c ∈ Nat.toDigits 10 n) : c.isDigit = true :=
    Nat.isDigit_of_mem_toDigits (by decide) (by decide) member
  have reaches : Reaches (String.ofList (userMark ++ Nat.toDigits 10 n))
      (.user (Number.digitsFrom 0 (Nat.toDigits 10 n))) :=
    .user Nat.toDigits_ne_nil (fun c member => Text.isDecimal_of_isDigit (digits c member)) short
  rw [resolve_of_reaches reaches, Number.digitsFrom_of_digits digits, Nat.ofDigitChars_ten_toDigits]

/-- A number is taken from an address as it stands there. -/
lemma resolve_number {digits : List Char} (decimal : ∀ c ∈ digits, Text.isDecimal c = true)
    (enough : Phone.minDigits ≤ digits.length) :
    resolve (String.ofList ('+' :: digits)) = .ok (.number (String.ofList ('+' :: digits))) := by
  have unmarked : ¬ userMark <+: (String.ofList ('+' :: digits)).toList := by
    rw [String.toList_ofList]
    exact fun marked => absurd (List.cons_prefix_cons.mp marked).1 (by decide)
  exact resolve_of_dialled unmarked (Phone.format_of_digits decimal enough)

open Inbound.Session in
/-- The address of a sender stands for whom the sender's record stands for. -/
lemma resolve_phone {entity : Json} {s : Sender} {whom : Entity} (described : sender entity = .ok s)
    (designates : Designates entity whom) : resolve s.phone = .ok whom := by
  rw [sender_phone described]
  cases designates with
  | user hidden known =>
    have short := writable_of_sender described
    rw [contact, firstOf, hidden, known] at short
    rw [address_of_user hidden known]
    exact resolve_user (of_decide_eq_true short)
  | number decimal enough given =>
    have some : _ ≠ [] := List.ne_nil_of_length_pos (Nat.lt_of_lt_of_le (by decide) enough)
    rw [address_of_digits decimal some given]
    exact resolve_number decimal enough

variable {session : Session} {log : List (Exchange service)}

/-- A session that is not logged in is closed, and another one is asked whether it is connected. -/
lemma runs_available_iff {usable : Bool} :
    Dialogue.Runs session.available log usable ↔
      (session.authorized = false ∧ log = [] ∧ usable = false) ∨
        session.authorized = true ∧ log = [⟨.connected, usable⟩] := by
  unfold available
  cases session.authorized with
  | false =>
    simp only [Bool.false_eq_true, false_and, or_false, true_and]
    exact Dialogue.runs_done_iff
  | true =>
    simp only [Bool.true_eq_false, false_and, false_or, true_and]
    exact Dialogue.runs_request_iff

/-- What is sent to an address is delivered to whom the address stands for. -/
lemma runs_send {destination : String} {text : Json} {whom : Entity}
    {r : Except Fault Desk.Delivery}
    (resolved : resolve destination = .ok whom)
    (run : Dialogue.Runs (ExceptT.run (send (.str destination) text)) log r) :
    ∃ answer, log = [⟨.deliver whom text, answer⟩] := by
  have meant : entity (.str destination) = .ok whom := resolved
  unfold send at run
  rw [meant] at run
  obtain ⟨answer, rest, rfl, last⟩ := Dialogue.runs_ask_iff.mp run
  refine ⟨answer, ?_⟩
  cases answer <;> obtain ⟨rfl, -⟩ := Dialogue.runs_done_iff.mp last <;> rfl

end Channel.Session

namespace Office

/-- What a session's line is asked when an answer is given over it: nothing if it is not logged in,
and otherwise whether it is connected; and then one text is delivered to one party. -/
inductive AnsweredOver (line : Nat) (session : Channel.Session) (whom : Entity) (text : String) :
    World → Prop where
  | closed :
    session.authorized = false →
    AnsweredOver line session whom text []
  | offline :
    session.authorized = true →
    AnsweredOver line session whom text [⟨.wire line .connected, false⟩]
  | delivered {answer} :
    session.authorized = true →
    AnsweredOver line session whom text
      [⟨.wire line .connected, true⟩, ⟨.wire line (.deliver whom (.str text)), answer⟩]

variable {o o' : Office} {world : World} {line : Nat} {session : Channel.Session} {whom : Entity}

/-- A session is open when it is authorized and connected. -/
lemma runs_available_session (held : o.lines[line]? = some (.channel (.session session)))
    {usable : Except Fault Bool}
    (run : Act.Runs (available line) o world usable o') :
    (session.authorized = false ∧ world = [] ∧ usable = .ok false ∧ o' = o) ∨
      session.authorized = true ∧ ∃ b, world = [⟨.wire line .connected, b⟩] ∧ usable = .ok b ∧
        o' = o := by
  unfold available at run
  rw [Act.runs_get_bind_iff, held] at run
  obtain ⟨b, o₁, w₁, w₂, rfl, asked, last⟩ := Act.runs_bind_iff.mp run
  obtain ⟨checks, rfl⟩ := Act.runs_lift_iff.mp asked
  obtain ⟨rfl, rfl, rfl⟩ := Act.runs_pure_iff.mp last
  obtain ⟨log, told, rfl⟩ := runs_wired_iff.mp checks
  obtain ⟨closed, rfl, rfl⟩ | ⟨authorized, rfl⟩ := Channel.Session.runs_available_iff.mp told
  · exact .inl ⟨closed, rfl, rfl, rfl⟩
  · exact .inr ⟨authorized, b, rfl, rfl, rfl⟩

/-- A text is delivered to whom its destination resolves to. -/
lemma runs_send_session (held : o.lines[line]? = some (.channel (.session session)))
    {destination : String}
    {text : Json} {r : Except Fault Desk.Delivery}
    (resolved : Channel.Session.resolve destination = .ok whom)
    (run : Act.Runs (send line (.str destination) text) o world r o') :
    ∃ answer, world = [⟨.wire line (.deliver whom text), answer⟩] := by
  unfold send at run
  rw [Act.runs_get_bind_iff, held] at run
  obtain ⟨⟨outcome, channel⟩, o₁, w₁, w₂, rfl, sent, later⟩ := Act.runs_bind_iff.mp run
  obtain ⟨goes, rfl⟩ := Act.runs_lift_iff.mp sent
  obtain ⟨⟨⟩, o₂, w₃, w₄, rfl, kept, last⟩ := Act.runs_bind_iff.mp later
  obtain ⟨rfl, -⟩ := Dialogue.runs_done_iff.mp kept
  obtain ⟨rfl, -, -⟩ := Act.runs_pure_iff.mp last
  obtain ⟨log, told, rfl⟩ := runs_wired_iff.mp goes
  obtain ⟨result, log₁, log₂, rfl, delivers, ended⟩ := Dialogue.runs_bind_iff.mp told
  obtain ⟨rfl, -⟩ := Dialogue.runs_done_iff.mp ended
  obtain ⟨answer, rfl⟩ := Channel.Session.runs_send resolved delivers
  exact ⟨answer, rfl⟩

/-- An answer over a session's line is delivered to whom the address of the sender stands for. -/
lemma answeredOver_of_autoReply {c : Desk.Config} {m : Message} {text : String}
    {r : Except Fault Desk.SideEffect}
    (routed : c.routeNamed? m.metadata.source = some line)
    (held : o.lines[line]? = some (.channel (.session session)))
    (resolved : Channel.Session.resolve m.sender.phone = .ok whom)
    (run : Act.Runs (carryOut (Desk.autoReply c m text)) o world r o') :
    AnsweredOver line session whom text world := by
  obtain ⟨log, told, serves⟩ := runs_run_iff.mp run
  obtain ⟨effect, -, replied⟩ | ⟨route, fault, -, found, rfl⟩ := Desk.runs_autoReply_iff.mp told
  · cases replied with
    | nowhere none => cases none.symm.trans routed
    | closed found =>
      cases found.symm.trans routed
      obtain ⟨closed, rfl, -, -⟩ | ⟨authorized, b, rfl, same, -⟩ :=
        runs_available_session held (serves_one_iff.mp serves)
      · exact .closed closed
      · cases same
        exact .offline authorized
    | tried answer found =>
      cases found.symm.trans routed
      obtain ⟨o₁, w₁, w₂, rfl, opened, sent⟩ := serves_cons_iff.mp serves
      obtain ⟨-, -, impossible, -⟩ | ⟨authorized, b, rfl, same, rfl⟩ :=
        runs_available_session held opened
      · cases impossible
      · cases same
        obtain ⟨answer, rfl⟩ := runs_send_session held resolved (serves_one_iff.mp sent)
        exact .delivered authorized
  · cases found.symm.trans routed
    obtain ⟨-, -, impossible, -⟩ | ⟨-, b, -, impossible, -⟩ :=
      runs_available_session held (serves_one_iff.mp serves)
    · cases impossible
    · cases impossible

end Office

namespace Inbound.Session

/-- A record describes a sender unless its name cannot be joined or its address is too long to be
written. If it stands for a user or for a number, the sender's address stands for the same, and an
answer that is given over the session to a message of the sender is delivered there and nowhere
else. -/
theorem sender_is_answered {entity : Json} :
    ((∃ s, sender entity = .ok s) ↔ Nameable entity ∧ (contact entity).writable = true) ∧
      ∀ s whom, sender entity = .ok s → Designates entity whom →
        Channel.Session.resolve s.phone = .ok whom ∧
          ∀ (c : Desk.Config) (m : Message) (text : String) (o o' : Office) (line : Nat)
            (session : Channel.Session)
            (world : Office.World) (r : Except Fault Desk.SideEffect),
            m.sender = s → c.routeNamed? m.metadata.source = some line →
              o.lines[line]? = some (.channel (.session session)) →
                Office.Act.Runs (Office.carryOut (Desk.autoReply c m text)) o world r o' →
                  Office.AnsweredOver line session whom text world := by
  refine ⟨exists_sender_iff, fun s whom described designates => ?_⟩
  have resolved := Channel.Session.resolve_phone described designates
  refine ⟨resolved, fun c m text o o' line session world r sent routed held run => ?_⟩
  exact Office.answeredOver_of_autoReply routed held (sent ▸ resolved) run

namespace Sample

/-- A user with a hidden number. -/
def recluse : Json :=
  .obj [("id", .int 777000), ("first_name", .str "Ada")]

/-- The user as a sender. -/
def ada : Sender :=
  { phone := "id:777000", name := .str "Ada", profileName := .str "Ada" }

/-- A message of hers. -/
def knock : Message where
  id := "5:1"
  sender := ada
  content := { type := .text, text := .str "hello" }
  timestamp := none
  metadata := { source := .str "session" }

/-- A desk that answers over the session. -/
def porch : Desk.Config :=
  { routes := [⟨"session", true, none⟩], admins := ⟨[]⟩, zone := .utc }

/-- A session that is logged in. -/
def login : Channel.Session :=
  { authorized := true, zone := .utc }

/-- An office with the session's line. -/
def house : Office :=
  { lines := [.channel (.session login)] }

/-- The session is connected, and the answer is delivered. -/
def thanks : Office.World :=
  [⟨.wire 0 .connected, true⟩,
    ⟨.wire 0 (.deliver (.user 777000) (.str "Thank you.")), .ok (some (.int 9))⟩]

end Sample

open Sample in
/-- The answer to a user with a hidden number is delivered to the user with that id. -/
theorem recluse_is_answered :
    sender recluse = .ok ada ∧ Channel.Session.resolve ada.phone = .ok (.user 777000) ∧
      Office.Act.Runs (Office.carryOut (Desk.autoReply porch knock "Thank you.")) house thanks
        (.ok ⟨.autoReply, ada.phone, none⟩) house ∧
      Office.AnsweredOver 0 login (.user 777000) "Thank you." thanks := by
  have described : sender recluse = .ok ada := by decide +kernel
  have designates : Designates recluse (.user 777000) := .user rfl rfl
  obtain ⟨resolved, answers⟩ := sender_is_answered.2 ada (.user 777000) described designates
  have run :
    Office.Act.Runs (Office.carryOut (Desk.autoReply porch knock "Thank you.")) house thanks
      (.ok ⟨.autoReply, ada.phone, none⟩) house := .ask (.ask .done)
  exact ⟨described, resolved, run,
    answers porch knock _ house house 0 login thanks _ rfl rfl rfl run⟩

end Inbound.Session

end ChatTriage

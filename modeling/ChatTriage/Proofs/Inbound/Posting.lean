import Mathlib.Data.List.Basic
import ChatTriage.Proofs.Inbound.Complete
import ChatTriage.Proofs.Store.Messages

/-!
# Postings of different chats

What is posted to a chat has a number that is its own within that chat only, so the id that its
message is given writes down the chat and the number. Both are read off the id again
(`Number.pair_toString_inj`), for the colon between them stands in neither. So the message of a
posting is never taken for a copy of another posting's, which is
`Inbound.Session.postings_stay_apart`.
-/

namespace ChatTriage

/-- A whole number is written with its decimal digits, as long as they are no more than are
written. -/
lemma Json.written_int_eq_ok_iff {n : Int} {s : String} :
    (Json.int n).written = .ok s ↔ (Nat.toDigits 10 n.natAbs).length ≤ Number.maxDigits ∧
    s = toString n := by
  simp only [written, writable, decide_eq_true_eq]
  split
  · rename_i short
    simp only [short, true_and, Except.ok.injEq]
    exact eq_comm
  · rename_i long
    simp [long]

namespace Number

/-- A natural number is written with digits only. -/
lemma isDigit_of_mem_repr {c : Char} {k : Nat} (member : c ∈ k.repr.toList) : c.isDigit = true := by
  rw [Nat.toList_repr] at member
  exact Nat.isDigit_of_mem_toDigits (by decide) (by decide) member

/-- Natural numbers that are written alike are equal. -/
lemma eq_of_repr_eq {j k : Nat} (same : j.repr = k.repr) : j = k := by
  have digits : Nat.toDigits 10 j = Nat.toDigits 10 k := by
    rw [← Nat.toList_repr, ← Nat.toList_repr, same]
  calc
    j = Nat.ofDigitChars 10 (Nat.toDigits 10 j) 0 := Nat.ofDigitChars_ten_toDigits.symm
    _ = Nat.ofDigitChars 10 (Nat.toDigits 10 k) 0 := by rw [digits]
    _ = k := Nat.ofDigitChars_ten_toDigits

/-- What is written with a sign is no natural number. -/
lemma repr_ne_signed {j k : Nat} : j.repr ≠ "-" ++ k.repr := by
  intro same
  have sign : '-' ∈ j.repr.toList := by simp [same]
  cases isDigit_of_mem_repr sign

/-- Whole numbers that are written alike are equal. -/
lemma eq_of_toString_eq {m n : Int} (same : toString m = toString n) : m = n := by
  rw [Int.toString_eq_repr, Int.toString_eq_repr, Int.repr_eq_if, Int.repr_eq_if] at same
  split_ifs at same
  · have := eq_of_repr_eq same
    omega
  · exact absurd same repr_ne_signed
  · exact absurd same.symm repr_ne_signed
  · have := eq_of_repr_eq (String.append_right_inj "-" |>.mp same)
    omega

/-- There are digits and a sign in a written number, and no colon. -/
lemma colon_notMem_toString (n : Int) : ':' ∉ (toString n).toList := by
  have digits (k : Nat) : ':' ∉ k.repr.toList := by
    intro member
    cases isDigit_of_mem_repr member
  rw [Int.toString_eq_repr, Int.repr_eq_if]
  split
  · exact digits _
  · rw [String.toList_append, List.mem_append, not_or]
    exact ⟨by decide, digits _⟩

/-- Two numbers that are written with a colon between them can be read off again. -/
lemma pair_toString_inj {a b c d : Int}
    (same : toString a ++ ":" ++ toString b = toString c ++ ":" ++ toString d) : a = c ∧ b = d := by
  have chars : (toString a).toList ++ ':' :: (toString b).toList =
      (toString c).toList ++ ':' :: (toString d).toList := by
    simpa using congrArg String.toList same
  obtain ⟨first, -, second⟩ :=
    (List.append_cons_inj_of_notMem (colon_notMem_toString a) (colon_notMem_toString b)).mp chars
  exact ⟨eq_of_toString_eq (String.toList_injective first),
    eq_of_toString_eq (String.toList_injective second)⟩

end Number

namespace Inbound.Session

open Store

/-- A posting to a chat, which has a number there. Either may be negative. -/
@[ext]
structure Posting where
  chat : Int
  number : Int
  deriving DecidableEq, Repr

namespace Posting

/-- The id that is given to the message of a posting. -/
def writtenId (p : Posting) : Except Fault String :=
  messageId (.int p.chat) (.int p.number)

/-- Neither of the numbers has more digits than are written. -/
structure Short (p : Posting) : Prop where
  chat : (Nat.toDigits 10 p.chat.natAbs).length ≤ Number.maxDigits
  number : (Nat.toDigits 10 p.number.natAbs).length ≤ Number.maxDigits

/-- A record of the posting is mapped to the message. -/
def Maps (p : Posting) (m : Message) : Prop :=
  ∃ x date, part x "chat_id" = .int p.chat ∧ part x "id" = .int p.number ∧ message x date = .ok m

variable {p q : Posting} {m n : Message} {s : String}

/-- A short posting is written with its chat and its number. -/
lemma writtenId_eq_ok_iff :
    p.writtenId = .ok s ↔ p.Short ∧ s = toString p.chat ++ ":" ++ toString p.number := by
  simp only [writtenId, messageId, bind_eq_ok_iff, Json.written_int_eq_ok_iff]
  constructor
  · rintro ⟨_, ⟨chat, rfl⟩, _, ⟨number, rfl⟩, same⟩
    cases same
    exact ⟨⟨chat, number⟩, rfl⟩
  · rintro ⟨short, rfl⟩
    exact ⟨_, ⟨short.chat, rfl⟩, _, ⟨short.number, rfl⟩, rfl⟩

/-- Of no two postings the messages are given one id. -/
lemma eq_of_writtenId (first : p.writtenId = .ok s) (second : q.writtenId = .ok s) : p = q := by
  obtain ⟨-, rfl⟩ := writtenId_eq_ok_iff.mp first
  obtain ⟨-, same⟩ := writtenId_eq_ok_iff.mp second
  obtain ⟨chat, number⟩ := Number.pair_toString_inj same
  exact Posting.ext chat number

/-- A mapped posting has the id of its message. -/
lemma Maps.writtenId (maps : p.Maps m) : p.writtenId = .ok m.id := by
  obtain ⟨x, date, chat, number, described⟩ := maps
  obtain ⟨identified, -⟩ := message_id described
  rw [chat, number] at identified
  exact identified

/-- Messages have one id when they come from one posting. -/
lemma Maps.id_eq_iff (maps : p.Maps m) (other : q.Maps n) : m.id = n.id ↔ p = q := by
  constructor
  · intro same
    exact eq_of_writtenId maps.writtenId (same ▸ other.writtenId)
  · rintro rfl
    exact Except.ok.inj (maps.writtenId.symm.trans other.writtenId)

end Posting

/-- The message of a posting is known after calls: its row was there before them, or one of them was
to create a message of the same posting, or a message that has its id and is of no posting. -/
inductive Known (t : MessageTable) (writes : List MessageWrite) (p : Posting)
    (m : Message) : Prop where
  | before :
    (t.row? m.id).isSome = true →
    Known t writes p m
  | copied {n document} :
    .create n ∈ writes →
    n.stored = .ok document →
    p.Maps n →
    Known t writes p m
  | foreign {n document} :
    .create n ∈ writes →
    n.stored = .ok document →
    n.id = m.id →
    (∀ q : Posting, ¬ q.Maps n) →
    Known t writes p m

variable {p : Posting} {m : Message} {t : MessageTable} {writes : List MessageWrite}

/-- The row of a posting's message is there after calls just when the message is known. -/
lemma known_iff (maps : p.Maps m) :
    Known t writes p m ↔ ((t.after writes).row? m.id).isSome = true := by
  rw [MessageTable.isSome_row?_after]
  constructor
  · intro known
    cases known with
    | before held => exact .inl held
    | @copied n document member stored copy =>
      exact .inr ⟨_, member, n, document, rfl, (copy.id_eq_iff maps).mpr rfl, stored⟩
    | @foreign n document member stored same _ =>
        exact .inr ⟨_, member, n, document, rfl, same, stored⟩
  · rintro (held | ⟨_, member, n, document, rfl, same, stored⟩)
    · exact .before held
    -- the id says of which posting the message is that the row was created from, if it is of any
    · by_cases session : ∃ q : Posting, q.Maps n
      · obtain ⟨q, copy⟩ := session
        obtain rfl := (copy.id_eq_iff maps).mp same
        exact .copied member stored copy
      · exact .foreign member stored same (not_exists.mp session)

/-- Every posting whose numbers are not too long to be written is given an id, and no two postings
are given one id, so that two of their messages have one id just when they are of one posting.
Whatever messages are created and saved, one after the other, the message of a posting is turned
away as a duplicate after that just when it is known, to which no message of another posting
contributes; otherwise its row is added. -/
theorem postings_stay_apart :
    (∀ p : Posting, (∃ s, p.writtenId = .ok s) ↔ p.Short) ∧
    (∀ (p q : Posting) (s : String), p.writtenId = .ok s → q.writtenId = .ok s → p = q) ∧
    (∀ (p q : Posting) (m n : Message), p.Maps m → q.Maps n → (m.id = n.id ↔ p = q)) ∧
    ∀ (t : MessageTable) (writes : List MessageWrite) (p : Posting) (m : Message) (document : Json),
      p.Maps m → m.stored = .ok document →
        (createMessage (some (t.after writes)) m = .error (.duplicate (.messageId m.id)) ↔
          Known t writes p m) ∧
        (createMessage (some (t.after writes)) m = .ok ((t.after writes).add (.fresh m document)) ↔
          ¬ Known t writes p m) := by
  refine ⟨fun p => ?_, fun p q s => Posting.eq_of_writtenId,
    fun p q m n => Posting.Maps.id_eq_iff, ?_⟩
  · simp only [Posting.writtenId_eq_ok_iff, exists_and_left, exists_eq, and_true]
  · intro t writes p m document maps stored
    rw [createMessage_eq stored, known_iff maps]
    cases held : ((t.after writes).row? m.id).isSome <;> simp

namespace Sample

/-- A record of a posting. -/
def posted (p : Posting) : Json :=
  .obj [("chat_id", .int p.chat), ("id", .int p.number), ("raw_text", .str "help"),
    ("sender", part stranger "sender")]

/-- The message with an id that such a record is mapped to. -/
def note (id : String) : Message :=
  { plea with id, timestamp := some Desk.Sample.morning }

/-- The message of a posting is taken in, and one of another source. -/
def evening : List MessageWrite :=
  [.create (note "-5:11"), .save (note "-5:11"), .create Desk.Sample.order]

end Sample

open Sample in
/-- The digits of two postings are the same in the same order. When the first one comes again its
message is known, and that of the other one is new. -/
theorem postings_stay_apart_of_same_digits :
    (Posting.mk (-5) 11).Maps (note "-5:11") ∧ (Posting.mk (-51) 1).Maps (note "-51:1") ∧
    createMessage (some (.after {} evening)) (note "-5:11") =
      .error (.duplicate (.messageId "-5:11")) ∧
    ∃ document, createMessage (some (.after {} evening)) (note "-51:1") =
      .ok (.add (.after {} evening) (.fresh (note "-51:1") document)) := by
  obtain ⟨-, -, ids, created⟩ := postings_stay_apart
  have first : (Posting.mk (-5) 11).Maps (note "-5:11") :=
    ⟨posted ⟨-5, 11⟩, some Desk.Sample.morning, by decide, by decide, by decide +kernel⟩
  have second : (Posting.mk (-51) 1).Maps (note "-51:1") :=
    ⟨posted ⟨-51, 1⟩, some Desk.Sample.morning, by decide, by decide, by decide +kernel⟩
  have stored (id : String)
      (encodable : ((note id).document Desk.Sample.morning.iso).encodable = true) :
      (note id).stored = .ok ((note id).document Desk.Sample.morning.iso) :=
    Message.stored_eq_ok_iff.mpr ⟨Message.toJson_eq_ok_iff.mpr ⟨_, rfl, rfl⟩, encodable⟩
  have storedFirst := stored "-5:11" (by decide +kernel)
  have storedSecond := stored "-51:1" (by decide +kernel)
  have new : ∀ n, .create n ∈ evening → n.id ≠ "-51:1" := by
    simp [evening, note, Desk.Sample.order]
  refine ⟨first, second, ?_, (note "-51:1").document Desk.Sample.morning.iso, ?_⟩
  · exact (created {} evening _ _ _ first storedFirst).1.mpr
      (.copied List.mem_cons_self storedFirst first)
  · refine (created {} evening _ _ _ second storedSecond).2.mpr fun known => ?_
    cases known with
    | before held => cases held
    | copied member _ copy => exact new _ member ((ids _ _ _ _ copy second).mpr rfl)
    | foreign member _ same _ => exact new _ member same

end Inbound.Session

end ChatTriage

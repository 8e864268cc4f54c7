import ChatTriage.Inbound.Cloud
import ChatTriage.Proofs.Message.Document

/-!
# The places of a delivery

A delivery is a list of places, in the order in which it is read: at each there is an item that
describes a message, or something that cannot be read at all. `messages_eq` says that the messages
of a delivery are those of its places up to the first that gives none, so that what comes of a place
depends on every place before it.
-/

namespace ChatTriage.Inbound

namespace Batch

variable {α β : Type}

/-- Nothing comes after an empty batch. -/
lemma append_empty (a : Batch) : a.append {} = a := by
  obtain ⟨messages, _ | f⟩ := a
  · simp [append]
  · rfl

/-- Batches may be put together in any order. -/
lemma append_assoc (a b d : Batch) : (a.append b).append d = a.append (b.append d) := by
  obtain ⟨messages, _ | f⟩ := a
  · obtain ⟨others, _ | f⟩ := b
    · simp [append]
    · rfl
  · rfl

/-- Batches of two lists come one after the other. -/
lemma concat_append (f : α → Batch) (xs ys : List α) :
    concat f (xs ++ ys) = (concat f xs).append (concat f ys) := by
  induction xs with
  | nil => rfl
  | cons x xs ih => rw [List.cons_append, concat, concat, ih, append_assoc]

/-- Batches of nested lists are put together in two steps. -/
lemma concat_flatMap (f : α → Batch) (g : β → List α) (ys : List β) :
    concat f (ys.flatMap g) = concat (fun y => concat f (g y)) ys := by
  induction ys with
  | nil => rfl
  | cons y ys ih => rw [List.flatMap_cons, concat_append, concat, ih]

/-- One batch is itself. -/
lemma concat_singleton (f : α → Batch) (x : α) : concat f [x] = f x :=
  append_empty (f x)

/-- What is put together may be renamed first. -/
lemma concat_map (f : α → Batch) (g : β → α) (ys : List β) :
    concat f (ys.map g) = concat (f ∘ g) ys := by
  induction ys with
  | nil => rfl
  | cons y ys ih => rw [List.map_cons, concat, concat, ih, Function.comp_apply]

/-- A batch that is not ended by a fault has a message for everything it was made of. -/
lemma eq_of_stop_none {results : List (Except Fault Message)}
    (whole : (concat single results).stop = none) :
    results = (concat single results).messages.map .ok := by
  induction results with
  | nil => rfl
  | cons result results ih =>
    cases result with
    | error e => cases whole
    | ok m => exact congrArg (Except.ok m :: ·) (ih whole)

end Batch

namespace Cloud

/-- The last part of reading a message, once its type, its file and its place are known. -/
def described (raw value : Json) (type : ContentType) (fileType : Option String)
    (media : Option Media)
    (location : Option Location) : Except Fault Message := do
  let text ← text raw fileType
  let name ← profileName value
  let id := shownOrBlank (← raw.get "id")
  let phone := shownOrBlank (← raw.get "from")
  let recipient ← recipient raw value
  let seconds ← ((← raw.get "timestamp").orElse (.int 0)).toInt
  let timestamp ← dateOfSeconds seconds
  return {
    id, sender := { phone, name, profileName := name }, recipient
    content := { type, text, media, location }, timestamp := some timestamp
    metadata := { source := .str source } }

/-- A message that is mapped was read to its end. -/
lemma described_of_message {raw value : Json} {m : Message} (mapped : message raw value = .ok m) :
    ∃ type fileType media location, described raw value type fileType media location = .ok m := by
  unfold message at mapped
  obtain ⟨type, -, mapped⟩ := bind_eq_ok_iff.mp mapped
  obtain ⟨_, -, mapped⟩ := bind_eq_ok_iff.mp mapped
  obtain ⟨fileType, -, mapped⟩ := bind_eq_ok_iff.mp mapped
  refine ⟨contentType type, fileType, ?_⟩
  cases fileType with
  | none =>
    simp only at mapped
    split at mapped
    · obtain ⟨media, -, mapped⟩ := bind_eq_ok_iff.mp mapped
      obtain ⟨_, -, mapped⟩ := bind_eq_ok_iff.mp mapped
      obtain ⟨location, -, mapped⟩ := bind_eq_ok_iff.mp mapped
      exact ⟨media, location, mapped⟩
    · exact ⟨none, none, mapped⟩
  | some name =>
    simp only at mapped
    split at mapped
    · rename_i impossible
      cases impossible
    · obtain ⟨_, -, mapped⟩ := bind_eq_ok_iff.mp mapped
      obtain ⟨media, -, mapped⟩ := bind_eq_ok_iff.mp mapped
      exact ⟨media, none, mapped⟩

/-- A message that is mapped is new. -/
lemma received_of_message {raw value : Json} {m : Message} (mapped : message raw value = .ok m) :
    m.status = .received := by
  obtain ⟨type, fileType, media, location, described⟩ := described_of_message mapped
  simp only [Cloud.described, bind_eq_ok_iff] at described
  obtain ⟨_, -, _, -, _, -, _, -, _, -, _, -, _, -, _, -, same⟩ := described
  cases same
  rfl

/-- An item of a change, with the value of the change that it stands in. -/
structure Item where
  raw : Json
  value : Json

/-- The message that an item describes. -/
def Item.message (item : Item) : Except Fault Message :=
  Cloud.message item.raw item.value

/-- What is found at a place: an item, or nothing that can be read. -/
abbrev Place : Type := Except Fault Item

/-- The message that is found at a place. -/
def Place.message (place : Place) : Except Fault Message :=
  place >>= Item.message

/-- An item is found with its message. -/
lemma Place.message_ok (item : Item) : Place.message (.ok item) = item.message := rfl

/-- The places in the elements of a value, which is a place itself if it has no elements. -/
def placesIn (x : Except Fault Json) (inner : Json → List Place) : List Place :=
  match x >>= Json.elementsOrNone with
  | .ok xs => xs.flatMap inner
  | .error e => [.error e]

/-- The places of a change. -/
def placesOfChange (change : Json) : List Place :=
  match change.get "field" with
  | .error e => [.error e]
  | .ok field =>
    if field = .str "messages" then
      match change.get "value" with
      | .error e => [.error e]
      | .ok value =>
        placesIn ((value.orElse (.obj [])).get "messages") fun raw =>
          [.ok ⟨raw, value.orElse (.obj [])⟩]
    else []

/-- The places of a delivery. -/
def places (body : Json) : List Place :=
  match body.get "object" with
  | .error e => [.error e]
  | .ok object =>
    if object = .str "whatsapp_business_account" then
      placesIn (body.get "entry") fun entry => placesIn (entry.get "changes") placesOfChange
    else []

/-- What is found at the places of a list, up to the first without a message. -/
def batch (places : List Place) : Batch :=
  .concat .single (places.map Place.message)

/-- Places are collected element by element. -/
lemma batch_placesIn (x : Except Fault Json) (inner : Json → List Place) :
    batch (placesIn x inner) = Batch.overElements x fun y => batch (inner y) := by
  unfold placesIn Batch.overElements
  cases x >>= Json.elementsOrNone with
  | error e => rfl
  | ok xs =>
    simp only [batch, Batch.concat_map]
    exact Batch.concat_flatMap ..

/-- The places of a change give its messages. -/
lemma batch_placesOfChange (change : Json) : batch (placesOfChange change) = ofChange change := by
  unfold placesOfChange ofChange
  cases change.get "field" with
  | error e => rfl
  | ok field =>
    simp only
    split
    · cases change.get "value" with
      | error e => rfl
      | ok value =>
        rw [batch_placesIn]
        refine congrArg _ (funext fun raw => ?_)
        exact Batch.concat_singleton Batch.single _
    · rfl

/-- A delivery gives the messages that are found at its places, up to the first without one. -/
lemma messages_eq (body : Json) : messages body = batch (places body) := by
  unfold messages places
  cases body.get "object" with
  | error e => rfl
  | ok object =>
    simp only
    split
    · rw [batch_placesIn]
      refine congrArg _ (funext fun entry => ?_)
      rw [batch_placesIn, funext batch_placesOfChange]
    · rfl

/-- The messages of a delivery are new. -/
lemma received_of_mem {body : Json} {m : Message} (member : m ∈ (messages body).messages)
    (whole : (messages body).stop = none) : m.status = .received := by
  rw [messages_eq] at member whole
  have found : Except.ok m ∈ (places body).map Place.message := by
    rw [Batch.eq_of_stop_none whole]
    exact List.mem_map_of_mem member
  obtain ⟨place, -, mapped⟩ := List.mem_map.mp found
  cases place with
  | error e => cases mapped
  | ok item => exact received_of_message mapped

end Cloud

end ChatTriage.Inbound

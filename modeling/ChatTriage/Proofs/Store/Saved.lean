import ChatTriage.Proofs.Store.Messages
import ChatTriage.Proofs.Store.Reached

/-!
# What was stored loads back

A filter that a document defines is found under its name as it was saved: a new one with an id of
its own and no matches yet, one that was saved over a row with the stats of that row. A message is
found under its id as it was created, an empty recipient apart, and a document that was read and
written once is stable from then on.
-/

namespace ChatTriage

/-- An empty text is left out. -/
lemma Json.orElse_ofText? (s : Option String) :
    (ofText? s).orElse .null = ofText? (s.filter (· ≠ "")) := by
  cases s with
  | none => rfl
  | some s =>
    by_cases empty : s = ""
    · subst empty
      rfl
    · simp [Option.filter, ofText?, orElse, truthy, empty]

/-- A default of nothing is no more there than the value. -/
lemma Json.orElse_null_truthy (x : Json) : (x.orElse .null).truthy = x.truthy := by
  unfold orElse
  cases truth : x.truthy with
  | true => exact truth
  | false => rfl

namespace Message

/-- A message as it is read back: an empty recipient is missing, and its version is given beside
it. -/
def restored (m : Message) (version : Version) : Message :=
  { m with recipient := m.recipient.orElse .null, version }

/-- A message with a date that reads back is read from its written form. -/
lemma ofJson_of_toJson {m : Message} {date : DateTime} (dated : m.timestamp = some date)
    (reads : DateTime.read? date.iso = some date) (version : Version) :
    m.toJson = .ok (m.document date.iso) ∧
      Message.ofJson (m.document date.iso) version = .ok (m.restored version) := by
  refine ⟨toJson_eq_ok_iff.mpr ⟨date, dated, rfl⟩, ?_⟩
  rw [ofJson_document, DateTime.ofJson_of_read reads, restored, dated]
  rfl

/-- What is read back is written as before. -/
lemma document_restored (m : Message) (version : Version) (date : String) :
    (m.restored version).document date = m.document date := by
  have recipient : (if (m.recipient.orElse .null).truthy then
        Json.obj [("phoneNumber", m.recipient.orElse .null)] else .null) =
      if m.recipient.truthy then .obj [("phoneNumber", m.recipient)] else .null := by
    rw [Json.orElse_null_truthy]
    cases truth : m.recipient.truthy with
    | true => simp [Json.orElse, truth]
    | false => rfl
  unfold document restored
  rw [recipient]

end Message

namespace Store

variable {r : FilterRow} {t t' : FilterTable} {f g : Filter}

/-- The filter with a name is what the only row with the name is loaded as. -/
lemma filterNamed_of_load {name : String} (encodable : Text.encodable name = true)
    (only : t.rows.filter (·.name = name) = [r]) (loaded : r.load = .ok f) :
    filterNamed (some t) name = .ok (some f) := by
  have query : filterNamed (some t) name =
    (loadAll (t.rows.filter (·.name = name))).map List.head? := filterNamed_of_encodable encodable
  rw [query, only, loadAll_singleton loaded]
  rfl

/-- No filter is found under a name that no row has. -/
lemma FilterTable.filterNamed_of_absent {name : String} (encodable : Text.encodable name = true)
    (absent : ∀ r ∈ t.rows, r.name ≠ name) : filterNamed (some t) name = .ok none := by
  have none : t.rows.filter (·.name = name) = [] := by simpa using absent
  have query : filterNamed (some t) name =
    (loadAll (t.rows.filter (·.name = name))).map List.head? := filterNamed_of_encodable encodable
  rw [query, none]
  rfl

/-- Saving a filter gives another one, which is found under its name from then on. -/
def FilterTable.SavesAs (t : FilterTable) (f g : Filter) : Prop :=
  ∃ t', saveFilter (some t) f = (some t', .ok g) ∧ filterNamed (some t') f.name = .ok (some g)

namespace FilterTable

/-- A filter was saved when the row that was written for it is the only one with its id and the only
one with its name. -/
lemma SavesAs.of_written {cell : Cell} (written : writeFilter (some t) f = .ok (t', cell))
    (numbered : t'.rowsWithId cell = [r]) (named : t'.rows.filter (·.name = f.name) = [r])
    (loaded : r.load = .ok g) : t.SavesAs f g := by
  have encodable := (writeFilter_eq_ok_iff.mp written).1
  refine ⟨t', ?_, filterNamed_of_load (Filter.encodable_name encodable) named loaded⟩
  simp only [saveFilter, written, readBack_of_load numbered loaded]

/-- A new filter that can be encoded and whose name is free gets a row of its own. -/
lemma Ordered.savesAs_new (ordered : t.Ordered) (regular : f.Regular)
    (encodable : f.encodable = true) (new : f.id = .null) (free : ∀ r ∈ t.rows, r.name ≠ f.name) :
    t.SavesAs f { f with id := .int (t.lastId + 1), stats := {} } := by
  have untaken : t.nameTaken f.name .null = false :=
    nameTaken_eq_false_iff.mpr fun r member same => absurd same (free r member)
  have written : writeFilter (some t) f = .ok (t.insert (.fresh f), .int (t.lastId + 1)) :=
    writeFilter_eq_ok_iff.mpr ⟨encodable, .inl ⟨new, untaken, rfl, rfl⟩⟩
  have own (n : Int) : (FilterRow.fresh f n).id = n := rfl
  refine .of_written written (ordered.rowsWithId_insert own) ?_ (FilterRow.load_fresh regular _)
  refine (ordered.insert own).filter_eq_singleton (List.mem_append_right _ List.mem_cons_self)
    fun s among => ?_
  obtain old | last := List.mem_append.mp among
  · have differ : s ≠ .fresh f (t.lastId + 1) := fun is => free s old (congrArg FilterRow.name is)
    simp [free s old, differ]
  · obtain rfl := List.mem_singleton.mp last
    simp [FilterRow.fresh]

/-- A filter that can be encoded is saved over the row with its id when no other row has its
name. -/
lemma Ordered.savesAs_row {stats : FilterStats} (ordered : t.Ordered) (regular : f.Regular)
    (encodable : f.encodable = true) (member : r ∈ t.rows) (own : f.id = .int r.id)
    (small : fits r.id = true)
    (free : ∀ s ∈ t.rows, s.name = f.name → s = r) (counted : r.stats = .ok stats) :
    t.SavesAs f { f with stats } := by
  have untaken : t.nameTaken f.name (.int r.id) = false :=
    nameTaken_eq_false_iff.mpr fun s among same => by
      rw [free s among same]; exact Cell.isId_int.mpr rfl
  have bound : Cell.bind (.store <| .filterSave ·) 4 f.id = .ok (.int r.id) := by
    rw [own, Cell.bind_int, if_pos small]
  have there : t.rowsWithId (.int r.id) ≠ [] :=
    List.ne_nil_of_mem (List.mem_filter.mpr ⟨member, Cell.isId_int.mpr rfl⟩)
  have old : f.id ≠ .null := by
    rw [own]
    nofun
  have written :=
    writeFilter_eq_ok_iff.mpr ⟨encodable, .inr ⟨old, bound, there, untaken, rfl⟩⟩
  have same (s : FilterRow) : (s.redefined f).id = s.id := rfl
  have loaded : (r.redefined f).load = .ok { f with stats } := by
    rw [FilterRow.load_redefined_eq regular, counted, ← own]
    rfl
  refine .of_written written (ordered.rowsWithId_updateRows member same) ?_ loaded
  refine (ordered.updateRows same).filter_eq_singleton
    (List.mem_map.mpr ⟨r, member, if_pos (Cell.isId_int.mpr rfl)⟩) fun s among => ?_
  obtain ⟨u, before, rfl⟩ := List.mem_map.mp among
  by_cases one : u = r
  · subst one
    simp [Cell.isId_int, FilterRow.redefined]
  · have apart : r.id ≠ u.id := fun same => one (ordered.unique before member same.symm)
    have named : u.name ≠ f.name := fun same => one (free u before same)
    have differ : u ≠ r.redefined f := fun is => apart (congrArg FilterRow.id is).symm
    simp [Cell.isId_int, apart, named, differ]

end FilterTable

/-- A message whose document can be encoded is found with its id once it is created. -/
lemma getMessage_of_createMessage {t : MessageTable} {m : Message} {date : DateTime}
    (dated : m.timestamp = some date) (reads : DateTime.read? date.iso = some date)
    (encodable : (m.document date.iso).encodable = true) (free : t.row? m.id = none) :
    ∃ t', createMessage (some t) m = .ok t' ∧
      getMessage (some t') m.id = .ok (some (m.restored (.count 0))) := by
  obtain ⟨written, read⟩ := Message.ofJson_of_toJson dated reads (.count 0)
  have stored := Message.stored_eq_ok_iff.mpr ⟨written, encodable⟩
  have created := createMessage_eq_ok_iff.mpr ⟨t, _, rfl, stored, free, rfl⟩
  have found : (t.add (.fresh m (m.document date.iso))).row? m.id =
      some (.fresh m (m.document date.iso)) := by
    rw [MessageTable.row?_add, free]
    exact if_pos rfl
  have loaded : (MessageRow.fresh m (m.document date.iso)).load = .ok (m.restored (.count 0)) :=
    (MessageRow.load_of_written _ rfl).trans read
  refine ⟨_, created, ?_⟩
  rw [getMessage_of_encodable (Message.encodable_id stored)]
  simp only [found, loaded]
  rfl

/-- A filter that a document defines reads back from its own document. If it can be encoded, then in
a table in order it is found under its name as it was saved: a new one with a fresh id and no
matches, one that is saved over a row with the stats of the row. If it cannot, no table takes it. -/
theorem saved_filter_loads_back {raw : Json} (read : Filter.ofJson raw = .ok f) :
    Filter.ofJson f.toJson = .ok f ∧
    (f.encodable = true → ∀ t : FilterTable, t.Ordered →
      (f.id = .null → (∀ r ∈ t.rows, r.name ≠ f.name) →
        ∃ id, (∀ r ∈ t.rows, r.id < id) ∧ t.SavesAs f { f with id := .int id, stats := {} }) ∧
      ∀ r ∈ t.rows, ∀ stats, f.id = .int r.id → fits r.id = true →
        (∀ s ∈ t.rows, s.name = f.name → s = r) → r.stats = .ok stats →
          t.SavesAs f { f with stats }) ∧
    (f.encodable = false → ∀ t : FilterTable,
      saveFilter (some t) f = (some t, .error (.value (.unencodable f.refusedText)))) := by
  have regular := Filter.regular_of_ofJson read
  refine ⟨Filter.ofJson_toJson read, fun encodable t ordered => ⟨fun new free => ?_, ?_⟩, ?_⟩
  · refine ⟨t.lastId + 1, fun r member => ?_, ordered.savesAs_new regular encodable new free⟩
    exact Int.lt_add_one_of_le (ordered.given r member)
  · intro r member stats own small free counted
    exact ordered.savesAs_row regular encodable member own small free counted
  · intro unencodable t
    rw [saveFilter, writeFilter_of_unencodable unencodable]

namespace Sample

/-- A definition with blanks around the name, an empty hour, a tag twice and a bare number for an
author. -/
def defining (id : Json) : Json :=
  .obj [("id", id), ("name", .str " Work "), ("authors", .arr [.str "+39 347"]),
    ("timeRange", .obj [("start", .str ""), ("days", .arr [.int 1, .str "7"])]),
    ("actions", .obj [("addTags", .arr [.str "job", .str "job"])])]

/-- The filter that it defines. -/
def work (id : Json) : Filter where
  id
  name := "Work"
  description := ""
  authors := [⟨some "+39 347", none⟩]
  keywords := []
  keywordMode := .any
  messageTypes := []
  timeRange := some ⟨.null, .null, [1, 7]⟩
  actions := ⟨false, none, ["job"], ⟨false, ""⟩, [], false⟩
  enabled := true
  stats := {}

/-- A row that matched four times before its definition was lost. -/
def spoiled : FilterRow :=
  ⟨1, "Old", .int 1, .int 4, .null, .foreign "?"⟩

/-- A text that is a surrogate by itself. -/
def surrogate : String :=
  String.ofList (Text.spell 0xd800)

/-- A definition with a surrogate for a keyword. -/
def lone : Json :=
  .obj [("name", .str "Work"), ("authors", .arr [.str "+39 347"]),
    ("keywords", .arr [.str surrogate]), ("timeRange", .obj [("days", .arr [.int 1, .int 7])]),
    ("actions", .obj [("addTags", .arr [.str "job"])])]

end Sample

open Sample in
/-- Beside a row that cannot be read a filter is saved as a new one, and over it with the stats of
the row; but not with a surrogate for a keyword. -/
theorem saved_filter_loads_back_beside_spoiled :
    Filter.ofJson (work .null).toJson = .ok (work .null) ∧
    (∃ id, (∀ r ∈ [spoiled], r.id < id) ∧
      FilterTable.SavesAs ⟨[spoiled], 1⟩ (work .null)
        { work .null with id := .int id, stats := {} }) ∧
    FilterTable.SavesAs ⟨[spoiled], 1⟩ (work (.int 1))
      { work (.int 1) with stats := ⟨4, none⟩ } ∧
    Filter.ofJson lone = .ok { work .null with keywords := [surrogate] } ∧
    ∃ text, saveFilter (some ⟨[spoiled], 1⟩) { work .null with keywords := [surrogate] } =
      (some ⟨[spoiled], 1⟩, .error (.value (.unencodable text))) := by
  have new : Filter.ofJson (defining .null) = .ok (work .null) := by decide +kernel
  have known : Filter.ofJson (defining (.int 1)) = .ok (work (.int 1)) := by decide +kernel
  have spelled : Filter.ofJson lone = .ok { work .null with keywords := [surrogate] } := by
    decide +kernel
  have ordered : FilterTable.Ordered ⟨[spoiled], 1⟩ := ⟨List.pairwise_singleton _ _, by decide⟩
  have free : ∀ r ∈ [spoiled], r.name ≠ (work .null).name := by decide
  have alone : ∀ s ∈ [spoiled], s.name = (work (.int 1)).name → s = spoiled := by decide
  have small : fits spoiled.id = true := by decide +kernel
  obtain ⟨back, stored, -⟩ := saved_filter_loads_back new
  obtain ⟨-, onto, -⟩ := saved_filter_loads_back known
  obtain ⟨-, -, refused⟩ := saved_filter_loads_back spelled
  have plain : (work .null).encodable = true ∧ (work (.int 1)).encodable = true := by
    decide +kernel
  have marked : { work .null with keywords := [surrogate] }.encodable = false := by decide +kernel
  refine ⟨back, (stored plain.1 _ ordered).1 rfl free, ?_, spelled, _, refused marked _⟩
  exact (onto plain.2 _ ordered).2 spoiled List.mem_cons_self _ rfl small alone rfl

/-- A message reads back from its own document, an empty recipient apart; and if the document can be
encoded, the message is found once it is created, while the table takes none that cannot. A document
with a date that was read and written reads back to what is written as before. The dates read back
from their written forms; those that a document gave do anyway. -/
theorem stored_message_loads_back (t : MessageTable) :
    (∀ (m : Message) (recipient : Option String) (date : DateTime),
      m.recipient = .ofText? recipient →
      m.timestamp = some date → DateTime.read? date.iso = some date →
      ∃ document, m.toJson = .ok document ∧
        Message.ofJson document m.version =
          .ok { m with recipient := .ofText? (recipient.filter (· ≠ "")) } ∧
        (document.encodable = true → t.row? m.id = none →
          ∃ t', createMessage (some t) m = .ok t' ∧
            getMessage (some t') m.id = .ok (some { m with
              recipient := .ofText? (recipient.filter (· ≠ "")), version := .count 0 })) ∧
        (document.encodable = false →
          ∃ text, createMessage (some t) m = .error (.value (.unencodable text)))) ∧
    ∀ raw version m, Message.ofJson raw version = .ok m → m.timestamp ≠ none →
      ∃ document, m.toJson = .ok document ∧
        ∀ v, ∃ n, Message.ofJson document v = .ok n ∧ n.toJson = .ok document := by
  constructor
  · intro m recipient date addressed dated reads
    rw [← Json.orElse_ofText?, ← addressed]
    obtain ⟨written, back⟩ := Message.ofJson_of_toJson dated reads m.version
    refine ⟨_, written, back, fun encodable free => ?_, fun unencodable => ?_⟩
    · exact getMessage_of_createMessage dated reads encodable free
    · obtain ⟨text, refused⟩ := createMessage_of_unencodable written unencodable
      exact ⟨text, refused t⟩
  · intro raw version m read dated
    obtain ⟨date, dated⟩ := Option.ne_none_iff_exists'.mp dated
    have reads := (Message.legible_of_ofJson read dated).read?_iso
    refine ⟨_, (Message.ofJson_of_toJson dated reads version).1, fun v => ?_⟩
    refine ⟨_, (Message.ofJson_of_toJson dated reads v).2, ?_⟩
    exact Message.toJson_eq_ok_iff.mpr ⟨date, dated, (m.document_restored v _).symm⟩

namespace Sample

/-- Eleven o'clock on the first of January 2024. -/
def elevenOClock : DateTime where
  wall := ⟨63839703600000000, by decide +kernel⟩
  offset := some .zero

/-- A message to nobody, with a file and a group of which nothing is known. -/
def blank : Message where
  id := "m1"
  sender := { phone := "" }
  content := { type := .text, media := some {} }
  timestamp := some elevenOClock
  recipient := .str ""
  metadata := { group := some ⟨.null, .null⟩ }

/-- A document with a date and little else. -/
def slip : Json :=
  .obj [("messageId", .int 7), ("timestamp", .str "20240101T11Z"),
    ("to", .obj [("phoneNumber", .int 0)])]

/-- What it is read as. -/
def seven : Message where
  id := "7"
  sender := { phone := "" }
  content := { type := .text }
  timestamp := some elevenOClock
  recipient := .int 0

end Sample

open Sample in
/-- A message without contents is found as it was created, its recipient apart, but none with a
surrogate for a text; and a document that leaves most of a message out is stable once it was read
and written. -/
theorem stored_message_loads_back_blank :
    (∃ t', createMessage (some {}) blank = .ok t' ∧
      getMessage (some t') "m1" = .ok (some { blank with recipient := .null })) ∧
    (∃ text, createMessage (some {})
        { blank with content := { type := .text, text := .str surrogate } } =
      .error (.value (.unencodable text))) ∧
    ∃ document, seven.toJson = .ok document ∧
      ∀ v, ∃ n, Message.ofJson document v = .ok n ∧ n.toJson = .ok document := by
  have reads : DateTime.read? elevenOClock.iso = some elevenOClock := by decide +kernel
  have read : Message.ofJson slip (.count 0) = .ok seven := by decide +kernel
  obtain ⟨stored, stable⟩ := stored_message_loads_back {}
  obtain ⟨document, written, -, found, -⟩ := stored blank (some "") elevenOClock rfl rfl reads
  obtain ⟨document', written', -, -, refused⟩ :=
    stored { blank with content := { type := .text, text := .str surrogate } } (some "")
      elevenOClock rfl rfl reads
  cases written
  cases written'
  exact ⟨found (by decide +kernel) rfl, refused (by decide +kernel),
    stable slip (.count 0) seven read nofun⟩

end Store

end ChatTriage

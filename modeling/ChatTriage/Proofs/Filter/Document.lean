import ChatTriage.Filter.Document
import ChatTriage.Proofs.Message.Document
import ChatTriage.Proofs.Phone
import ChatTriage.Proofs.Text.Words

/-!
# Reading a filter back

A filter that was read from a document is `Regular`: reading has normalized what it holds. The
definition of a regular filter reads back as it was, whatever values the id, the name, the switch
and the stats have been given beside it.
-/

namespace ChatTriage

/-- A field of an object, null if it is missing. -/
def Json.part (fields : List (String × Json)) (name : String) : Json :=
  (find? fields name).getD .null

/-- A part of an object is got. -/
lemma Json.get_obj {fields : List (String × Json)} {name : String} :
    (Json.obj fields).get name = .ok (part fields name) := rfl

/-- A list of which each member gives something gives all of it. -/
lemma mapM_eq_ok {α β : Type} {f : α → Except Fault β} {g : α → β} {xs : List α}
    (each : ∀ x, f x = .ok (g x)) : xs.mapM f = .ok (xs.map g) := by
  induction xs with
  | nil => rfl
  | cons x xs ih =>
    rw [List.mapM_cons, each, ih]
    rfl

/-- A list of which each member reads back reads back. -/
lemma mapM_map_eq_ok {α : Type} {read : Json → Except Fault α} {write : α → Json} {xs : List α}
    (back : ∀ x, read (write x) = .ok x) : (xs.map write).mapM read = .ok xs := by
  rw [List.mapM_map, mapM_eq_ok (f := read ∘ write) (g := id) back, List.map_id]

/-- A date that was read is written as it is read. -/
lemma DateTime.ofJson_toJson {raw : Json} {date : Option DateTime}
    (read : DateTime.ofJson raw = .ok date) :
    DateTime.ofJson (DateTime.toJson date) = .ok date := by
  cases date with
  | none => rfl
  | some t => exact DateTime.ofJson_of_read (DateTime.legible_of_ofJson read).read?_iso

/-- A mode reads back. -/
lemma KeywordMode.ofJson_name (mode : KeywordMode) :
    KeywordMode.ofJson (.str mode.name) = .ok mode := by
  cases mode <;> decide +kernel

/-- A type reads back. -/
lemma ContentType.ofJson_name (t : ContentType) : ContentType.ofJson (.str t.name) = .ok t := by
  cases t <;> rfl

/-- An author reads back. -/
lemma Author.ofJson_toJson (a : Author) : Author.ofJson a.toJson = a := by
  obtain ⟨phone, name⟩ := a
  cases phone <;> cases name <;> rfl

namespace Json

/-- A list has its elements. -/
lemma elementsOrNone_arr (items : List Json) : (Json.arr items).elementsOrNone = .ok items := by
  cases items <;> rfl

/-- Texts are shown as they are. -/
lemma shown_texts (texts : List String) : (texts.map Json.str).map Json.shown = texts := by
  rw [List.map_map]
  exact List.map_id texts

end Json

namespace TimeRange

/-- A range as it is read: a bound that is empty is null, and it asks for something. -/
structure Regular (r : TimeRange) : Prop where
  start : r.start.orElse .null = r.start
  stop : r.stop.orElse .null = r.stop
  asks : (r.start = .null && r.stop = .null && r.days.isEmpty) = false

/-- A range that is regular reads back. -/
lemma ofJson_toJson {r : TimeRange} (regular : r.Regular) :
    TimeRange.ofJson r.toJson = .ok (some r) := by
  have steps : TimeRange.ofJson r.toJson = (do
      let days ← (← (Json.arr (r.days.map .int)).elementsOrNone).mapM Json.toInt
      if r.start.orElse .null = .null && r.stop.orElse .null = .null &&
        days.isEmpty then return none
      return some ⟨r.start.orElse .null, r.stop.orElse .null, days⟩) := rfl
  have days : (r.days.map Json.int).mapM Json.toInt = .ok r.days := mapM_map_eq_ok fun n => rfl
  rw [steps, regular.start, regular.stop, Json.elementsOrNone_arr]
  simp only [bind, Except.bind, days, regular.asks]
  rfl

/-- What is read is regular. -/
lemma regular_of_ofJson {raw : Json} {r : TimeRange} (read : TimeRange.ofJson raw = .ok (some r)) :
    r.Regular := by
  have null (x : Json) : (x.orElse .null).orElse .null = x.orElse .null := by
    unfold Json.orElse
    cases truth : x.truthy with
    | true => simp [truth]
    | false => rfl
  unfold TimeRange.ofJson at read
  split at read
  · cases read
  · simp only [bind_eq_ok_iff] at read
    obtain ⟨start, -, stop, -, days, -, items, -, ints, -, read⟩ := read
    split at read
    · cases read
    · rename_i asks
      cases read
      exact ⟨null start, null stop, Bool.eq_false_iff.mpr asks⟩

end TimeRange

namespace FilterActions

/-- The actions of a definition read back when no tag is repeated. -/
lemma ofJson_toJson {a : FilterActions} (tags : a.addTags.Nodup) :
    FilterActions.ofJson a.toJson = .ok a := by
  obtain ⟨markImportant, setPriority, addTags, ⟨enabled, message⟩, forwardTo, archive⟩ := a
  have steps : FilterActions.ofJson
      (toJson ⟨markImportant, setPriority, addTags, ⟨enabled, message⟩, forwardTo, archive⟩) = (do
      let priority := Json.ofText? (setPriority.map Priority.name)
      let setPriority ← if priority.truthy then some <$> Priority.ofJson priority else pure none
      let tags ← (Json.ofTexts addTags).elementsOrNone
      let destinations ← (Json.ofTexts forwardTo).elementsOrNone
      return ⟨markImportant, setPriority, Phone.distinct (tags.map Json.shown),
        ⟨enabled, shownOrBlank (.str message)⟩, destinations.map Json.shown, archive⟩) := rfl
  rw [steps]
  unfold Json.ofTexts
  rw [Json.elementsOrNone_arr, Json.elementsOrNone_arr]
  simp only [bind, Except.bind, Json.shown_texts, shownOrBlank_str, Phone.distinct_eq tags]
  cases setPriority with
  | none => rfl
  | some p => cases p <;> rfl

/-- No tag is read twice. -/
lemma nodup_of_ofJson {raw : Json} {a : FilterActions} (read : FilterActions.ofJson raw = .ok a) :
    a.addTags.Nodup := by
  unfold FilterActions.ofJson at read
  simp only [bind_eq_ok_iff] at read
  obtain ⟨_, -, _, -, _, -, read⟩ := read
  -- the rest is read alike whether a priority is given or not
  split at read
  all_goals
    simp only [bind_eq_ok_iff] at read
    obtain ⟨_, -, _, -, _, -, _, -, _, -, _, -, _, -, _, -, same⟩ := read
    cases same
    exact Phone.nodup_distinct

end FilterActions

namespace Filter

/-- A filter as it is read: a name that is trimmed and not empty, hours and days that ask for
something, and no tag twice. -/
structure Regular (f : Filter) : Prop where
  trimmed : Text.trim f.name = f.name
  named : f.name ≠ ""
  range : ∀ r, f.timeRange = some r → r.Regular
  tags : f.actions.addTags.Nodup

/-- Fields in which the definition of a filter stands, with values of their own for the id, the
name, the switch and the stats. -/
structure DefinedIn (f : Filter) (fields : List (String × Json)) (id : Json) (name : String)
    (enabled : Bool) (matched lastMatch : Json) : Prop where
  id : Json.find? fields "id" = some id
  name : Json.find? fields "name" = some (.str name)
  enabled : Json.find? fields "enabled" = some (.bool enabled)
  stats : Json.find? fields "stats" = some (.obj [("matches", matched), ("lastMatch", lastMatch)])
  definition : ∀ part ∈ f.definition, Json.find? fields part.1 = some part.2

/-- A definition is read with the values that stand beside it. -/
lemma DefinedIn.ofJson {f : Filter} {fields : List (String × Json)} {id : Json} {name : String}
    {enabled : Bool} {matched lastMatch : Json} (regular : f.Regular)
    (defined : f.DefinedIn fields id name enabled matched lastMatch) :
    Filter.ofJson (.obj fields) = (do
      if (Text.trim name).isEmpty then throw (.value .emptyFilterName)
      let matched ← matched.toInt
      let lastMatch ← DateTime.ofJson lastMatch
      return { f with id, name := Text.trim name, enabled, stats := ⟨matched, lastMatch⟩ }) := by
  obtain ⟨hasId, hasName, hasEnabled, hasStats, parts⟩ := defined
  unfold Filter.definition at parts
  simp only [List.forall_mem_cons] at parts
  obtain ⟨description, authors, keywords, mode, types, range, actions, -⟩ := parts
  obtain ⟨hours, range, ranged⟩ : ∃ x, Json.find? fields "timeRange" = some x ∧
      TimeRange.ofJson x = .ok f.timeRange := by
    refine ⟨_, range, ?_⟩
    cases given : f.timeRange with
    | none => rfl
    | some r => exact TimeRange.ofJson_toJson (regular.range r given)
  have written : ((f.messageTypes.map ContentType.name).map Json.str).mapM ContentType.ofJson =
      .ok f.messageTypes := by
    rw [List.map_map]
    exact mapM_map_eq_ok ContentType.ofJson_name
  have persons : (f.authors.map Author.toJson).map Author.ofJson = f.authors := by
    rw [List.map_map]
    exact (List.map_congr_left fun a _ => a.ofJson_toJson).trans (List.map_id _)
  have got {part : String} {x : Json} (found : Json.find? fields part = some x) :
      (Json.obj fields).get part = .ok x := by
    simp only [Json.get, found, Option.getD_some]
  have called : (Json.obj fields).field "name" = .ok (.str name) := by
    simp only [Json.field, hasName]
  have switched : (Json.obj fields).getOr "enabled" (.bool true) = .ok (.bool enabled) := by
    simp only [Json.getOr, hasEnabled, Option.getD_some]
  have counts : (Json.obj [("matches", matched), ("lastMatch", lastMatch)]).orElse (.obj []) =
      .obj [("matches", matched), ("lastMatch", lastMatch)] := rfl
  have first :
    (Json.obj [("matches", matched), ("lastMatch", lastMatch)]).getOr "matches" (.int 0) =
      .ok matched := rfl
  have second : (Json.obj [("matches", matched), ("lastMatch", lastMatch)]).get "lastMatch" =
      .ok lastMatch := rfl
  unfold Filter.ofJson
  simp only [called, switched, got hasId, got hasStats, got description, got authors,
    got keywords, got mode, got types, got range, got actions, counts, first, second, ok_bind,
    Json.ofTexts, Json.elementsOrNone_arr, KeywordMode.ofJson_name, written, ranged,
    FilterActions.ofJson_toJson regular.tags, Json.shown_str, Json.shown_texts, persons,
    shownOrBlank_str]
  rfl

/-- The definition of a filter stands in its document. -/
lemma definedIn_toJson (f : Filter) : ∃ fields, f.toJson = .obj fields ∧
    f.DefinedIn fields f.id f.name f.enabled (.int f.stats.matched)
      (DateTime.toJson f.stats.lastMatch) := by
  refine ⟨_, rfl, rfl, rfl, rfl, rfl, ?_⟩
  unfold definition
  simp only [List.forall_mem_cons]
  exact ⟨rfl, rfl, rfl, rfl, rfl, rfl, rfl, fun x none => absurd none List.not_mem_nil⟩

/-- The date of the last match is read from a document too. -/
lemma lastMatch_of_ofJson {raw : Json} {f : Filter} (read : Filter.ofJson raw = .ok f) :
    ∃ x, DateTime.ofJson x = .ok f.stats.lastMatch := by
  unfold Filter.ofJson at read
  simp only [bind_eq_ok_iff] at read
  obtain ⟨name, -, read⟩ := read
  split at read
  · simp only [bind_eq_ok_iff] at read
    obtain ⟨_, impossible, -⟩ := read
    cases impossible
  · simp only [bind_eq_ok_iff] at read
    obtain ⟨_, -, _, -, _, -, _, -, _, -, _, -, _, -, _, -, _, -, _, -, _, -, _, -, _, -,
      _, -, _, -, _, -, _, -, _, -, _, -, x, -, date, dated, same⟩ := read
    cases same
    exact ⟨x, dated⟩

/-- What is read is regular. -/
lemma regular_of_ofJson {raw : Json} {f : Filter} (read : Filter.ofJson raw = .ok f) :
    f.Regular := by
  unfold Filter.ofJson at read
  simp only [bind_eq_ok_iff] at read
  obtain ⟨name, -, read⟩ := read
  split at read
  · simp only [bind_eq_ok_iff] at read
    obtain ⟨_, impossible, -⟩ := read
    cases impossible
  · rename_i named
    simp only [bind_eq_ok_iff] at read
    obtain ⟨_, -, _, -, _, -, _, -, _, -, _, -, _, -, _, -, _, -, _, -, _, -, _, -, _, -, _,
      range, _, -, _, actions, _, -, _, -, _, -, _, -, _, -, same⟩ := read
    cases same
    constructor
    · exact Text.trim_trim name.shown
    · intro empty
      exact named (String.isEmpty_iff.mpr empty)
    · intro r given
      subst given
      exact TimeRange.regular_of_ofJson range
    · exact FilterActions.nodup_of_ofJson actions

/-- A regular filter has a name. -/
lemma Regular.name_isEmpty {f : Filter} (regular : f.Regular) : f.name.isEmpty = false :=
  Bool.eq_false_iff.mpr fun empty => regular.named (String.isEmpty_iff.mp empty)

/-- A filter that was read reads back. -/
lemma ofJson_toJson {raw : Json} {f : Filter} (read : Filter.ofJson raw = .ok f) :
    Filter.ofJson f.toJson = .ok f := by
  have regular := regular_of_ofJson read
  obtain ⟨fields, written, defined⟩ := f.definedIn_toJson
  obtain ⟨x, dated⟩ := lastMatch_of_ofJson read
  have counted : (Json.int f.stats.matched).toInt = .ok f.stats.matched := rfl
  rw [written, defined.ofJson regular, regular.trimmed, regular.name_isEmpty, counted,
    DateTime.ofJson_toJson dated]
  rfl

end Filter

end ChatTriage

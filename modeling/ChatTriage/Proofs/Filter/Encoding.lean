import ChatTriage.Command.Field
import ChatTriage.Proofs.Json.Encoding

/-!
# Filters that can be encoded

A store takes a filter only if its name and the texts of its definition can be encoded. An edit of
such a filter leaves one if the new value can be encoded (`Update.encodable_apply`), whatever else
the filter holds.
-/

namespace ChatTriage

variable {f : Filter}

/-- The name of a filter and its definition can be encoded. -/
def Filter.encodable (f : Filter) : Bool :=
  Text.encodable f.name && (Json.obj f.definition).encodable

/-- The text of a filter that is found not to be encodable, its name being looked at first. -/
def Filter.refusedText (f : Filter) : String :=
  if Text.encodable f.name then (Json.obj f.definition).write .unicode else f.name

/-- A filter that can be encoded has a name that can. -/
lemma Filter.encodable_name (encodable : f.encodable = true) : Text.encodable f.name = true :=
  (Bool.and_eq_true_iff.mp encodable).1

/-- A text that may be missing can be encoded if it can when it is there. -/
lemma Json.encodable_ofText? {s : Option String} :
    (ofText? s).encodable = s.all Text.encodable := by
  cases s with
  | none => decide
  | some s => exact encodable_str

/-- Texts can be encoded if each of them can. -/
lemma Json.encodable_ofTexts {texts : List String} :
    (ofTexts texts).encodable = texts.all Text.encodable := by
  rw [ofTexts, encodable_arr, List.all_map]
  exact congrArg texts.all (funext fun s => encodable_str)

/-- Truth values can be encoded. -/
lemma Json.encodable_bool (b : Bool) : (bool b).encodable = true := by
  cases b <;> decide

/-- Actions can be encoded if their tags, their answer and their destinations can. -/
lemma FilterActions.encodable_toJson {a : FilterActions} : a.toJson.encodable =
    (a.addTags.all Text.encodable && Text.encodable a.autoReply.message &&
      a.forwardTo.all Text.encodable) := by
  have priority : (a.setPriority.map Priority.name).all Text.encodable = true := by
    cases a.setPriority with
    | none => rfl
    | some p => cases p <;> decide
  have keys : ["markAsImportant", "setPriority", "addTags", "autoReply", "enabled", "message",
      "forwardTo", "archive"].all Text.encodable = true := by decide
  simp only [List.all_cons, List.all_nil, Bool.and_eq_true] at keys
  simp [toJson, Json.encodable_obj, Json.encodable_ofText?, Json.encodable_ofTexts,
    Json.encodable_str, Json.encodable_bool, priority, keys, Bool.and_assoc]

/-- What a filter has to encode. -/
lemma Filter.encodable_eq : f.encodable =
    (Text.encodable f.name && Text.encodable f.description &&
      (Json.arr (f.authors.map Author.toJson)).encodable && f.keywords.all Text.encodable &&
      (match f.timeRange with | some r => r.toJson | none => .null).encodable &&
      f.actions.toJson.encodable) := by
  have mode : Text.encodable f.keywordMode.name = true := by cases f.keywordMode <;> decide
  have types : (f.messageTypes.map ContentType.name).all Text.encodable = true := by
    rw [List.all_map, List.all_eq_true]
    intro t _
    cases t <;> decide
  have keys :
    ["description", "authors", "keywords", "keywordMatchMode", "messageTypes", "timeRange",
      "actions"].all Text.encodable = true := by decide
  simp only [List.all_cons, List.all_nil, Bool.and_eq_true] at keys
  cases hours : f.timeRange <;>
    simp [encodable, definition, Json.encodable_obj, Json.encodable_ofTexts, Json.encodable_str,
      keys, mode, types, hours, Bool.and_assoc]

/-- The tags of a filter are part of what it has to encode. -/
lemma Filter.encodable_tags (encodable : f.encodable = true) :
    f.actions.addTags.all Text.encodable = true := by
  rw [encodable_eq, FilterActions.encodable_toJson] at encodable
  simp only [Bool.and_eq_true] at encodable
  exact encodable.2.1.1

namespace Command

/-- The new value can be encoded; names of types and priorities and truth values always can. -/
def Update.encodable : Update → Bool
  | .keywords ks => ks.all Text.encodable
  | .authors as => (Json.arr (as.map Author.toJson)).encodable
  | _ => true

/-- An edit of a filter that can be encoded leaves one if the new value can be encoded. -/
lemma Update.encodable_apply (encodable : f.encodable = true) (u : Update) :
    (u.apply f).encodable = u.encodable := by
  rw [Filter.encodable_eq, FilterActions.encodable_toJson] at encodable ⊢
  simp only [Bool.and_eq_true] at encodable
  cases u <;> simp [apply, Update.encodable, encodable]

end Command

end ChatTriage

import Mathlib.Data.List.Basic
import ChatTriage.Logging
import ChatTriage.Proofs.Message.Document
import ChatTriage.Proofs.Text.Search

/-!
# Blackened lines

A line in which secrets were blackened has none of them in it, however they overlap, as long as they
have no asterisk: `Logging.no_secret_survives`. The asterisks of one replacement keep a later one
from bringing an earlier secret back, since a secret that stands in the result stood in the line
before. Everything else is as it was: `Blackened` tells what a line may become.
-/

namespace ChatTriage.Logging

variable {env : Environment} {config : Json} {names secrets values : List String} {enabled : Bool}
  {line secret s : String} {xs cs ms rs : List Char}

/-! ### The secrets of an environment -/

/-- A secret is the value of a name that is set and not empty. -/
lemma mem_secrets_iff : s ∈ Logging.secrets env enabled names ↔
    enabled = true ∧ s ≠ "" ∧ ∃ name ∈ names, env.get? name = some s := by
  cases enabled with
  | false => simp [Logging.secrets]
  | true => simp [Logging.secrets, orderSecrets, List.mem_eraseDups, and_comm]

/-- Names that are all texts are kept. -/
lemma texts_of_find? {items : List Json}
    (texts : (items.find? fun name => !name.text?.any isName) = none) :
    (items.filterMap Json.text?).map .str = items := by
  induction items with
  | nil => rfl
  | cons x items ih =>
    rw [List.find?_eq_none, List.forall_mem_cons] at texts
    cases x with
    | str s =>
      have text : (Json.str s).text? = some s := rfl
      rw [List.filterMap_cons_some text, List.map_cons, ih (List.find?_eq_none.mpr texts.2)]
    | _ => exact absurd rfl texts.1

/-- A configuration names a variable: its list has the name as an element. -/
def Names (config : Json) (name : String) : Prop :=
  ∃ list items, config.getOr "patterns" (.arr []) = .ok list ∧ list.elements = .ok items ∧
    .str name ∈ items

/-- The names that are read from a configuration that is switched on are those in its list. -/
lemma mem_names_iff {name : String} (given : redaction config = .ok (true, names)) :
    name ∈ names ↔ Names config name := by
  unfold redaction at given
  split at given
  · cases given
  obtain ⟨switch, -, given⟩ := bind_eq_ok_iff.mp given
  split at given
  · cases given
  obtain ⟨list, listed, given⟩ := bind_eq_ok_iff.mp given
  obtain ⟨items, read, given⟩ := bind_eq_ok_iff.mp given
  split at given
  · cases given
  · cases given
  · rename_i texts
    cases given
    have member : name ∈ items.filterMap Json.text? ↔ .str name ∈ items := by
      conv_rhs => rw [← texts_of_find? texts]
      exact (List.mem_map_of_injective fun _ _ => Json.str.inj).symm
    rw [member]
    constructor
    · exact fun named => ⟨list, items, listed, read, named⟩
    · rintro ⟨list', items', listed', read', named⟩
      cases listed.symm.trans listed'
      cases read.symm.trans read'
      exact named

/-! ### Lines -/

/-- One secret is redacted before the others. -/
lemma redact_cons :
    redact (secret :: secrets) line = redact secrets (Text.replaceAll line secret blackened) := rfl

/-- What has no asterisk has nothing of what replaces it. -/
lemma apart_of_plain (plain : '*' ∉ xs) : ∀ c ∈ blackened.toList, c ∉ xs := by
  simpa [blackened] using plain

/-- What a line becomes when secrets in it are blackened and nothing else is changed. -/
inductive Blackened (secrets : List String) : List Char → List Char → Prop where
  | nil :
    Blackened secrets [] []
  | keep {c : Char} {cs rs : List Char} :
    Blackened secrets cs rs →
    Blackened secrets (c :: cs) (c :: rs)
  | black {secret : String} {cs rs : List Char} :
    secret ∈ secrets →
    Blackened secrets cs rs →
    Blackened secrets (secret.toList ++ cs) ('*' :: '*' :: '*' :: rs)

/-- Nothing need be replaced. -/
lemma Blackened.refl : Blackened secrets cs cs := by
  induction cs with
  | nil => exact .nil
  | cons c cs ih => exact .keep ih

/-- What the blackened line begins with, and has no asterisk in it, was kept. -/
lemma Blackened.exists_of_append (plain : '*' ∉ xs) (black : Blackened secrets cs (xs ++ rs)) :
    ∃ ds, cs = xs ++ ds ∧ Blackened secrets ds rs := by
  induction xs generalizing cs with
  | nil => exact ⟨cs, rfl, black⟩
  | cons x xs ih =>
    obtain ⟨sign, signs⟩ := not_or.mp (fun either => plain (List.mem_cons.mpr either))
    generalize whole : x :: xs ++ rs = ms at black
    cases black with
    | nil => cases whole
    | keep later =>
      cases whole
      obtain ⟨ds, rfl, rest⟩ := ih signs later
      exact ⟨ds, rfl, rest⟩
    | black _ _ => exact absurd (List.cons.inj whole).1.symm sign

/-- A secret is blackened after others in what was kept of the line. -/
lemma Blackened.replaced (member : secret ∈ secrets) (some : secret ≠ "")
    (plain : '*' ∉ secret.toList)
    (black : Blackened secrets cs ms) (done : Text.Replaced secret.toList blackened.toList ms rs) :
    Blackened secrets cs rs := by
  have filled : secret.toList ≠ [] := fun none => some (String.toList_eq_nil_iff.mp none)
  -- on the length of the line, for one step may take a whole secret, or the asterisks of an earlier
  -- one
  induction length : ms.length using Nat.strong_induction_on generalizing cs ms rs with
  | _ n ih =>
    subst length
    cases done with
    | nil => exact black
    | keep absent rest =>
      cases black with
      | keep later => exact .keep (ih _ (Nat.lt_add_one _) later rest rfl)
      | @black other _ rs known later =>
        have done : Text.Replaced secret.toList blackened.toList (['*', '*', '*'] ++ rs) _ :=
          .keep absent rest
        obtain ⟨_, whole, rest⟩ := Text.exists_of_replaced_append filled (apart_of_plain plain) done
        rw [whole]
        exact .black known (ih rs.length (Nat.lt_add_of_pos_right (Nat.succ_pos 2)) later rest rfl)
    | swap rest =>
      obtain ⟨ds, rfl, later⟩ := black.exists_of_append plain
      refine .black member (ih _ ?_ later rest rfl)
      rw [List.length_append]
      exact Nat.lt_add_of_pos_left (List.length_pos_of_ne_nil filled)

/-- Blackening changes nothing but secrets. -/
lemma Blackened.redact (within : values ⊆ secrets) (plain : ∀ s ∈ values, '*' ∉ s.toList)
    (black : Blackened secrets cs line.toList) :
    Blackened secrets cs (Logging.redact values line).toList := by
  induction values generalizing line with
  | nil => exact black
  | cons secret values ih =>
    obtain ⟨member, within⟩ := List.cons_subset.mp within
    obtain ⟨sign, signs⟩ := List.forall_mem_cons.mp plain
    rw [redact_cons]
    refine ih within signs ?_
    by_cases some : secret = ""
    · rwa [Text.replaceAll, if_pos (String.isEmpty_iff.mpr some)]
    · exact black.replaced member some sign (Text.replaced_replaceAll some)

/-- What stands in a line after the blackening, and has no asterisk in it, stood there before. -/
lemma contains_of_redact (plain : '*' ∉ s.toList)
    (found : Text.contains (redact values line) s = true) :
    Text.contains line s = true := by
  induction values generalizing line with
  | nil => exact found
  | cons secret values ih =>
    rw [redact_cons] at found
    have before := ih found
    by_cases some : secret = ""
    · rwa [Text.replaceAll, if_pos (String.isEmpty_iff.mpr some)] at before
    · rw [Text.contains_iff] at before ⊢
      exact Text.infix_of_replaced (by decide) (apart_of_plain plain)
        (Text.replaced_replaceAll some) before

/-- A secret without an asterisk is gone after its turn, and stays away. -/
lemma not_contains_redact (member : s ∈ values) (some : s ≠ "") (plain : '*' ∉ s.toList) :
    Text.contains (redact values line) s = false := by
  induction values generalizing line with
  | nil => exact absurd member List.not_mem_nil
  | cons secret values ih =>
    rw [redact_cons]
    obtain rfl | later := List.mem_cons.mp member
    · rw [Bool.eq_false_iff]
      intro found
      have filled : s.toList ≠ [] := fun none => some (String.toList_eq_nil_iff.mp none)
      have after := Text.contains_iff.mp (contains_of_redact plain found)
      exact Text.not_infix_of_replaced filled (by decide) (apart_of_plain plain)
        (Text.replaced_replaceAll some) after
    · exact ih later

/-- The secrets of an environment are the values of the variables that a configuration names, empty
ones apart. If none of them has an asterisk, a line has none of them in it after they were
blackened, in whatever order those of one length come, and nothing but secrets is changed in it. -/
theorem no_secret_survives (given : redaction config = .ok (true, names))
    (collected : values.Perm (Logging.secrets env true names))
    (plain : ∀ s ∈ values, '*' ∉ s.toList) :
    (∀ s, s ∈ values ↔ s ≠ "" ∧ ∃ name, Names config name ∧ env.get? name = some s) ∧
      ∀ line, (∀ s ∈ values, Text.contains (redact values line) s = false) ∧
        Blackened values line.toList (redact values line).toList := by
  have member (s : String) : s ∈ values ↔ s ≠ "" ∧ ∃ name ∈ names, env.get? name = some s := by
    rw [collected.mem_iff, mem_secrets_iff, and_iff_right rfl]
  refine ⟨fun s => ?_, fun line => ⟨fun s secret => ?_, ?_⟩⟩
  · simp only [member, mem_names_iff given]
  · exact not_contains_redact secret ((member s).mp secret).1 (plain s secret)
  · exact Blackened.refl.redact (List.Subset.refl values) plain

namespace Sample

/-- Three variables are named, one of them twice. -/
def rules : Json :=
  .obj [("enabled", .bool true),
    ("patterns", .arr [.str "TOKEN", .str "HASH", .str "PIN", .str "TOKEN"])]

/-- The value of the last variable stands in those of the others, which overlap. -/
def vault : Environment :=
  [("TOKEN", "abc"), ("HASH", "bcd"), ("PIN", "bc")]

/-- The three values, of which the two longer ones come in the other order. -/
def treasures : List String :=
  ["bcd", "abc", "bc"]

end Sample

open Sample in
/-- Three secrets that overlap are gone from a line. -/
theorem no_secret_survives_overlap :
    redaction rules = .ok (true, ["TOKEN", "HASH", "PIN", "TOKEN"]) ∧
      treasures.Perm (Logging.secrets vault true ["TOKEN", "HASH", "PIN", "TOKEN"]) ∧
      redact treasures "logged in with abcd and abc" = "logged in with a*** and ***" ∧
      ∀ s ∈ treasures,
        Text.contains (redact treasures "logged in with abcd and abc") s = false := by
  have given : redaction rules = .ok (true, ["TOKEN", "HASH", "PIN", "TOKEN"]) := by decide +kernel
  have distinct : treasures.Perm (["abc", "bcd", "bc", "abc"].filter (!·.isEmpty)).eraseDups := by
    decide +kernel
  have collected : treasures.Perm (Logging.secrets vault true ["TOKEN", "HASH", "PIN", "TOKEN"]) :=
    distinct.trans (List.mergeSort_perm _ secretBefore).symm
  exact ⟨given, collected, by decide +kernel,
    ((no_secret_survives given collected (by decide)).2 "logged in with abcd and abc").1⟩

end ChatTriage.Logging

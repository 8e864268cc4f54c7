import ChatTriage.Proofs.Json.Texts

/-!
# Values that can be encoded

A value can be encoded just when the text can that it is written as: writing brings in no surrogate
and takes none away (`encodable_write`). Numbers are written without any.
-/

namespace ChatTriage

open Text (surrogateMark)

variable {c : Char} {s t : String} {items : List Json} {fields : List (String × Json)}

/-! ### Numbers -/

namespace Number

/-- No digit is a mark. -/
lemma mark_notMem_toDigits (n : Nat) : surrogateMark ∉ Nat.toDigits 10 n := by
  intro member
  have digit : surrogateMark.isDigit = true :=
    Nat.isDigit_of_mem_toDigits (by decide) (by decide) member
  exact absurd digit (by decide)

/-- No number is written with a mark. -/
lemma mark_notMem_repr (n : Nat) : surrogateMark ∉ n.repr.toList := by
  rw [Nat.toList_repr]
  exact mark_notMem_toDigits n

/-- Texts without marks may be put together. -/
lemma mark_notMem_append (first : surrogateMark ∉ s.toList) (second : surrogateMark ∉ t.toList) :
    surrogateMark ∉ (s ++ t).toList := by
  rw [String.toList_append, List.mem_append, not_or]
  exact ⟨first, second⟩

/-- Neither is one with a sign. -/
lemma mark_notMem_toString (n : Int) : surrogateMark ∉ (toString n).toList := by
  rw [Int.toString_eq_repr, Int.repr_eq_if]
  split
  · exact mark_notMem_repr _
  · exact mark_notMem_append (by decide) (mark_notMem_repr _)

/-- Digits are laid out without marks. -/
lemma Layout.mark_notMem_write {l : Layout} {digits : List Char} {lead : Int}
    (plain : surrogateMark ∉ digits) : surrogateMark ∉ (l.write digits lead).toList := by
  have zeros (n : Nat) : surrogateMark ∉ List.replicate n '0' := fun member =>
    absurd (List.eq_of_mem_replicate member) (by decide)
  have ofList {cs : List Char} (plain : surrogateMark ∉ cs) :
      surrogateMark ∉ (String.ofList cs).toList := by
    rwa [String.toList_ofList]
  unfold write
  split
  · split
    · refine mark_notMem_append (by decide) (ofList ?_)
      rw [List.mem_append, not_or]
      exact ⟨zeros _, plain⟩
    · have padded (n : Nat) : surrogateMark ∉ digits ++ List.replicate n '0' := by
        rw [List.mem_append, not_or]
        exact ⟨plain, zeros n⟩
      refine mark_notMem_append (mark_notMem_append (ofList fun member => ?_) (by decide)) ?_
      · exact padded _ (List.mem_of_mem_take member)
      · split
        · decide
        · exact ofList fun member => padded _ (List.mem_of_mem_drop member)
  · refine mark_notMem_append (mark_notMem_append (mark_notMem_append ?_ (by decide)) ?_) ?_
    · split
      · refine mark_notMem_append ?_ ?_
        · simpa using plain
        · split <;> decide
      · obtain ⟨first, rest⟩ := not_or.mp (List.mem_cons.not.mp plain)
        refine mark_notMem_append (mark_notMem_append ?_ (by decide)) (ofList rest)
        simpa using first
      · decide
    · split <;> decide
    · split
      · exact mark_notMem_append (by decide) (mark_notMem_repr _)
      · exact mark_notMem_repr _

end Number

/-- Neither is a binary number. -/
lemma Double.mark_notMem_text (x : Double) : surrogateMark ∉ x.text.toList := by
  have steps : x.text =
      if x.isNaN then "nan"
      else if x.isInfinite then (if x.negative then "-" else "") ++ "inf"
      else if x.isZero then (if x.negative then "-" else "") ++ "0.0"
      else (if x.negative then "-" else "") ++ layout.write x.shortest.1 x.shortest.2 := rfl
  have plain : surrogateMark ∉ (if x.negative then "-" else "").toList := by split <;> decide
  have digits : surrogateMark ∉ x.shortest.1 := by
    unfold shortest
    split
    · intro member
      have among := (List.dropWhile_sublist _).subset (List.mem_reverse.mp member)
      exact Number.mark_notMem_toDigits _ (List.mem_reverse.mp among)
    · exact List.not_mem_nil
  rw [steps]
  generalize (if x.negative then "-" else "") = sign at *
  split_ifs
  · decide
  · exact Number.mark_notMem_append plain (by decide)
  · exact Number.mark_notMem_append plain (by decide)
  · exact Number.mark_notMem_append plain (Number.Layout.mark_notMem_write digits)

namespace Json

/-- Nor is one that is written in a document. -/
lemma mark_notMem_floatText (x : Double) : surrogateMark ∉ (floatText x).toList := by
  unfold floatText
  split
  · decide
  · split
    · split <;> decide
    · exact x.mark_notMem_text

/-! ### Texts and what holds them -/

/-- No escape holds a mark. -/
lemma mem_charText : surrogateMark ∈ charText .unicode c ↔ c = surrogateMark := by
  unfold charText
  split_ifs with quote slash line back tab bell feed control ascii
  · subst quote; decide
  · subst slash; decide
  · subst line; decide
  · subst back; decide
  · subst tab; decide
  · subst bell; decide
  · subst feed; decide
  · have escape (n : Nat) (low : n < 0x20) : surrogateMark ∉ longEscape n := by
      interval_cases n <;> decide
    have other : c ≠ surrogateMark := by
      rintro rfl
      exact absurd control (by decide)
    exact iff_of_false (escape _ control) other
  · cases ascii
  · rw [List.mem_singleton, eq_comm]

/-- A string is written with a mark just when it cannot be encoded. -/
lemma mem_stringText : surrogateMark ∈ stringText .unicode s ↔ Text.encodable s = false := by
  have quote : surrogateMark ≠ '"' := by decide
  simp [stringText, flatMap_pointText, List.mem_flatMap, mem_charText, quote, Text.encodable]

mutual

/-- What is written of a value holds a mark just when the value cannot be encoded. -/
lemma mem_chars : ∀ x : Json, surrogateMark ∈ chars .unicode x ↔ x.encodable = false
  | .null => by decide
  | .bool true => by decide
  | .bool false => by decide
  | .int n => by simpa [chars, encodable] using Number.mark_notMem_toString n
  | .float x => by simpa [chars, encodable] using mark_notMem_floatText x
  | .str s => by rw [chars, encodable, mem_stringText]
  | .arr items => by
    have apart : surrogateMark ≠ '[' ∧ surrogateMark ≠ ']' := by decide
    simp [chars, encodable, mem_itemChars items, apart]
  | .obj fields => by
    have apart : surrogateMark ≠ '\x7b' ∧ surrogateMark ≠ '\x7d' := by decide
    simp [chars, encodable, mem_fieldChars fields, apart]

/-- So are items. -/
lemma mem_itemChars : ∀ items : List Json,
    surrogateMark ∈ itemChars .unicode items ↔ encodableItems items = false
  | [] => by decide
  | x :: [] => by simp [itemChars, encodableItems, mem_chars x]
  | x :: y :: rest => by
    have apart : surrogateMark ≠ ',' ∧ surrogateMark ≠ ' ' := by decide
    rw [itemChars, encodableItems, List.mem_append, List.mem_cons, List.mem_cons, mem_chars x,
      mem_itemChars (y :: rest), Bool.and_eq_false_iff]
    simp only [apart, false_or]

/-- So are fields. -/
lemma mem_fieldChars : ∀ fields : List (String × Json),
    surrogateMark ∈ fieldChars .unicode fields ↔ encodableFields fields = false
  | [] => by decide
  | (k, x) :: [] => by
    have apart : surrogateMark ≠ ':' ∧ surrogateMark ≠ ' ' := by decide
    simp only [fieldChars, encodableFields, List.mem_append, List.mem_cons, mem_stringText,
      mem_chars x, apart, false_or, Bool.and_true, Bool.and_eq_false_iff]
  | (k, x) :: f :: rest => by
    have apart : surrogateMark ≠ ',' ∧ surrogateMark ≠ ' ' ∧ surrogateMark ≠ ':' := by decide
    rw [fieldChars, encodableFields]
    simp only [List.mem_append, List.mem_cons, mem_stringText, mem_chars x, apart,
      mem_fieldChars (f :: rest), false_or, Bool.and_eq_false_iff, or_assoc]

end

/-- A value can be encoded just when the text can that it is written as. -/
lemma encodable_write (x : Json) : Text.encodable (x.write .unicode) = x.encodable := by
  have marked := mem_chars x
  rw [Text.encodable, write, String.toList_ofList]
  cases encodable : x.encodable <;> simp [marked, encodable]

/-- A string can be encoded if its text can. -/
lemma encodable_str : (str s).encodable = Text.encodable s := rfl

/-- A list can be encoded if its members can. -/
lemma encodable_arr : (arr items).encodable = items.all encodable := by
  rw [encodable]
  induction items with
  | nil => rfl
  | cons x items ih => rw [encodableItems, ih, List.all_cons]

/-- An object can be encoded if its fields can. -/
lemma encodable_obj :
    (obj fields).encodable = fields.all fun f => Text.encodable f.1 && f.2.encodable := by
  rw [encodable]
  induction fields with
  | nil => rfl
  | cons f fields ih => rw [encodableFields, ih, List.all_cons]

end Json

end ChatTriage

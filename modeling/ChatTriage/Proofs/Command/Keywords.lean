import ChatTriage.Proofs.Command.Field
import ChatTriage.Proofs.Json.Texts

/-!
# Keywords in chat

Keywords read back from the text in which they are reported, and a value that is no array is one
keyword as it stands. But a value that goes too deep to be read at all is refused:
`keywords_kept_unless_deep`.
-/

namespace ChatTriage.Command

open Json (Overdeep)

variable {raw : String}

/-- A value that is no array is one entry, unless it goes too deep. -/
lemma listValue_of_no_array (other : ∀ items, Json.read raw ≠ .ok (.arr items))
    (shallow : ¬ Overdeep raw) :
    listValue raw = .ok [.str raw] := by
  unfold listValue
  split
  · rename_i items read
    exact absurd read (other items)
  · rfl
  · rename_i refusal refused
    exact if_neg fun deep => shallow ⟨refusal, refused, deep⟩

namespace Update

/-- Keywords read back from their report. -/
lemma read_describe_keywords (keywords : List String) :
    Update.read .keywords (Update.keywords keywords).describe = .ok (.keywords keywords) := by
  have entries : listValue (Update.keywords keywords).describe = .ok (keywords.map .str) := by
    unfold listValue describe
    rw [Json.read_write_texts]
    rfl
  calc Update.read .keywords (Update.keywords keywords).describe
      = .ok (.keywords ((keywords.map .str).map Json.shown)) := by
        unfold Update.read
        rw [entries]
        rfl
    _ = .ok (.keywords keywords) := by rw [Json.shown_texts]

/-- A value that goes too deep is refused. -/
lemma read_of_overdeep (deep : Overdeep raw) :
    ∃ refusal, Update.read .keywords raw = .error (.json refusal) ∧ refusal.isTooDeep = true := by
  obtain ⟨refusal, refused, deep⟩ := deep
  have entries : listValue raw = .error (.json refusal) := by
    unfold listValue
    rw [refused]
    exact if_pos deep
  refine ⟨refusal, ?_, deep⟩
  unfold Update.read
  rw [entries]
  rfl

/-- A value that is no array is kept as one keyword just when it does not go too deep. -/
lemma read_keywords_iff (other : ∀ items, Json.read raw ≠ .ok (.arr items)) :
    Update.read .keywords raw = .ok (.keywords [raw]) ↔ ¬ Overdeep raw := by
  constructor
  · intro kept deep
    obtain ⟨refusal, refused, -⟩ := read_of_overdeep deep
    rw [refused] at kept
    cases kept
  · intro shallow
    unfold Update.read
    rw [listValue_of_no_array other shallow]
    rfl

/-- Keywords survive being reported and read. A value that is no array gives one keyword as it
stands just when it does not go too deep, and is refused otherwise. An array stands in square
brackets. What goes too deep has more openings than containers may stand in each other, and so many
brackets at the beginning are too deep whatever follows them. -/
theorem keywords_kept_unless_deep (keywords : List String) (raw : String) :
    Update.read .keywords (Update.keywords keywords).describe = .ok (.keywords keywords) ∧
    ((∀ items, Json.read raw ≠ .ok (.arr items)) →
      (Update.read .keywords raw = .ok (.keywords [raw]) ↔ ¬ Overdeep raw)) ∧
    (Overdeep raw → ∃ refusal, Update.read .keywords raw = .error (.json refusal) ∧
      refusal.isTooDeep = true) ∧
    (∀ items, Json.read raw = .ok (.arr items) → Json.Bracketed raw.toList) ∧
    (Overdeep raw → Json.maxDepth < Json.openings raw.toList) ∧
    ∀ count cs, raw.toList = List.replicate count '[' ++ cs → Json.maxDepth < count →
      Overdeep raw :=
  ⟨read_describe_keywords keywords, read_keywords_iff, read_of_overdeep,
    fun _ => Json.bracketed_of_read, Overdeep.openings, fun _ _ => Json.overdeep_of_brackets⟩

/-- An array that is not closed is kept, but not if it is opened fifteen hundred times. -/
theorem keywords_kept_unless_deep_unterminated :
    Update.read .keywords "[unterminated" = .ok (.keywords ["[unterminated"]) ∧
    ∃ refusal, Update.read .keywords (String.ofList (List.replicate 1500 '[')) =
      .error (.json refusal) ∧
      refusal.isTooDeep = true := by
  constructor
  · obtain ⟨-, kept, -, bracketed, openings, -⟩ := keywords_kept_unless_deep [] "[unterminated"
    have unclosed : ∀ items, Json.read "[unterminated" ≠ .ok (.arr items) := by
      intro items read
      obtain ⟨before, inside, after, text, -⟩ := bracketed items read
      have closed : ']' ∈ "[unterminated".toList := by
        rw [text]
        exact List.mem_append_right _ List.mem_cons_self
      exact absurd closed (by decide)
    exact (kept unclosed).mpr fun deep => absurd (openings deep) (by decide)
  · obtain ⟨-, -, refused, -, -, brackets⟩ :=
      keywords_kept_unless_deep [] (String.ofList (List.replicate 1500 '['))
    have begins : (String.ofList (List.replicate 1500 '[')).toList =
        List.replicate 1500 '[' ++ [] := by
      rw [String.toList_ofList, List.append_nil]
    exact refused (brackets 1500 [] begins (by decide))

end Update

end ChatTriage.Command

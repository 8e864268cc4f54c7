import ChatTriage.Proofs.Command.Text
import ChatTriage.Proofs.Text.Search

/-!
# Recognizing what is read

What a text asks for is decided by the phrases that stand in it letter by letter, a request for the
list before an update, while a command is read from every spelling of its phrase. So a text that
begins with an update phrase and is read as a command is never taken as a request for help; a list
phrase anywhere in it makes it a request for the list; and without one it is recognized as an update
if its phrase is `Plain`, or if a plain one stands further on.
-/

namespace ChatTriage.Command

open Text (words trimLeft trimRight trimChars lowerChars Solid Gap)

variable {cs phrase rest v o : List Char} {verb object text : String} {command : UpdateCommand}

/-- An update phrase in ASCII letters with one space in it. -/
inductive Plain : List Char → Prop
  | mk {verb object : String} {v o : List Char} :
    Verb verb object → v.map Char.toLower = verb.toList → o.map Char.toLower = object.toList →
    Plain (v ++ ' ' :: o)

/-- What a text is looked up by: without the blanks around it and in lower case. -/
def normalized (text : String) : String := Text.lower (Text.trim text)

/-- A text in which some of the phrases stand. -/
def Mentions (phrases : List String) (text : String) : Prop :=
  ∃ phrase ∈ phrases, Text.contains (normalized text) phrase = true

instance {phrases : List String} : Decidable (Mentions phrases text) :=
  inferInstanceAs (Decidable (∃ phrase ∈ phrases, Text.contains (normalized text) phrase = true))

/-- A phrase is found when the text mentions it. -/
lemma any_contains_iff {phrases : List String} :
    phrases.any (Text.contains (normalized text)) = true ↔ Mentions phrases text :=
  List.any_eq_true

/-! ### What a plain phrase is lowered to -/

/-- Letters that are lowered to ASCII letters are ASCII letters. -/
lemma ascii_of_map_toLower {word : List Char} (ascii : ∀ w ∈ word, w.toNat < 128)
    (lowered : v.map Char.toLower = word) : ∀ c ∈ v, c.toNat < 128 := by
  intro c member
  by_contra beyond
  have image := ascii c.toLower (lowered ▸ List.mem_map_of_mem member)
  rw [Text.toLower_of_beyond (Nat.not_lt.mp beyond)] at image
  exact beyond image

/-- A verb is made of plain letters. -/
lemma Verb.ascii (which : Verb verb object) :
    (∀ w ∈ verb.toList, w.toNat < 128) ∧ ∀ w ∈ object.toList, w.toNat < 128 :=
  ⟨List.all_iff_forall_prop.mp (by cases which <;> decide),
    List.all_iff_forall_prop.mp (by cases which <;> decide)⟩

/-- The phrases that are looked for are the verbs with their objects. -/
lemma Verb.mem_updatePhrases (which : Verb verb object) :
    verb ++ " " ++ object ∈ updatePhrases := by
  cases which <;> decide

/-- A text is compared trimmed and in small letters. -/
lemma toList_normalized (text : String) :
    (normalized text).toList = lowerChars (trimChars text.toList) := by
  rw [normalized, Text.lower, Text.trim, String.toList_ofList, String.toList_ofList]

/-- A text that begins with a plain phrase mentions it. -/
lemma Plain.mentions (plain : Plain phrase) (begins : trimChars text.toList = phrase ++ rest) :
    Mentions updatePhrases text := by
  obtain @⟨verb, object, v, o, which, spelled, spelled'⟩ := plain
  have ascii : ∀ c ∈ v ++ ' ' :: o, c.toNat < 128 := by
    intro c member
    rcases List.mem_append.mp member with early | late
    · exact ascii_of_map_toLower which.ascii.1 spelled c early
    · rcases List.mem_cons.mp late with rfl | late
      · decide
      · exact ascii_of_map_toLower which.ascii.2 spelled' c late
  have lowered : (v ++ ' ' :: o).map Char.toLower = (verb ++ " " ++ object).toList := by
    rw [List.map_append, List.map_cons, spelled, spelled', String.toList_append,
      String.toList_append, List.append_assoc]
    rfl
  refine ⟨verb ++ " " ++ object, which.mem_updatePhrases, ?_⟩
  rw [Text.contains, toList_normalized, begins, lowerChars, Text.lowerFrom_append ascii, lowered]
  exact Text.occurs_iff.mpr (List.prefix_append _ _).isInfix

/-! ### What the text is not -/

/-- A text that begins with an update phrase and goes on with a word still begins with it when it is
trimmed. -/
lemma Phrased.trimChars_eq (phrased : Phrased cs [] phrase rest) (more : words rest ≠ []) :
    trimChars cs = phrase ++ trimRight rest := by
  obtain ⟨rfl, @⟨_, _, v, gap, o, which, verb, wide, object⟩, -⟩ := phrased
  have left : trimLeft (v ++ gap ++ o ++ rest) = v ++ gap ++ o ++ rest := by
    rw [List.append_assoc, List.append_assoc]
    exact trimLeft_append_of_solid (verb.solid which (by simp))
  rw [List.nil_append, trimChars, left, Text.trimRight_append more]

/-- Phrases are longer than five characters. -/
lemma Phrase.length_gt (isPhrase : Phrase phrase) : 5 < phrase.length := by
  obtain @⟨verb, object, v, gap, o, which, written, -, -⟩ := isPhrase
  have count := written.length_eq
  have long : 5 < verb.toList.length := by cases which <;> decide
  rw [List.length_append, List.length_append]
  omega

/-- A long text is no request for help. -/
lemma not_mem_helpWords (long : 5 < (trimChars text.toList).length) :
    normalized text ∉ helpWords := by
  intro member
  have short : ∀ word ∈ helpWords, word.toList.length ≤ 5 := by decide
  have lowered := short _ member
  rw [toList_normalized] at lowered
  have count : (trimChars text.toList).length ≤ (lowerChars (trimChars text.toList)).length :=
    Text.length_le_length_lowerFrom
  omega

/-- What a text asks for if it is no request for help. -/
lemma Intent.of_eq (none : normalized text ∉ helpWords) :
    Intent.of text = if Mentions listPhrases text then .list
      else if Mentions updatePhrases text then .update else .unknown := by
  have unhelped : helpWords.contains (normalized text) = false := by
    rwa [← Bool.not_eq_true, List.contains_iff_mem]
  have same : Intent.of text = if helpWords.contains (normalized text) then .help
      else if listPhrases.any (Text.contains (normalized text)) then .list
      else if updatePhrases.any (Text.contains (normalized text)) then .update else .unknown := rfl
  rw [same, unhelped]
  simp only [any_contains_iff, Bool.false_eq_true, ↓reduceIte]

/-- A text that begins with an update phrase and is read as a command is not taken as a request for
help. It is taken as a request for the list exactly when it mentions one, and otherwise it is
recognized as an update exactly when its phrase is plain or a plain one is mentioned. -/
theorem Intent.of_parsed (phrased : Phrased text.toList [] phrase rest)
    (read : UpdateCommand.ofText text = .ok command) :
    Intent.of text ≠ .help ∧
      (Intent.of text = .list ↔ Mentions listPhrases text) ∧
      (Intent.of text = .update ↔
        ¬ Mentions listPhrases text ∧ (Plain phrase ∨ Mentions updatePhrases text)) := by
  have more : words rest ≠ [] := by
    intro none
    have first : FirstPhrase text.toList [] phrase rest := ⟨phrased, fun _ _ _ _ => Nat.zero_le _⟩
    rw [first.ofText_of_few (by rw [none]; decide)] at read
    cases read
  have begins := phrased.trimChars_eq more
  have long : 5 < (trimChars text.toList).length := by
    rw [begins, List.length_append]
    exact Nat.lt_add_right _ phrased.phrase.length_gt
  rw [Intent.of_eq (not_mem_helpWords long)]
  have mentions : Plain phrase ∨ Mentions updatePhrases text ↔ Mentions updatePhrases text :=
    or_iff_right_of_imp fun plain => plain.mentions begins
  rw [mentions]
  by_cases lists : Mentions listPhrases text
  · simp [lists]
  · by_cases updates : Mentions updatePhrases text <;> simp [lists, updates]

/-- A command in mixed case is an update, although its filter has the name of another command. -/
theorem Intent.of_parsed_mixed_case :
    UpdateCommand.ofText "Update Filter list active false" = .ok ⟨"list", "active", "false"⟩ ∧
      Intent.of "Update Filter list active false" = .update := by
  have phrased : Phrased "Update Filter list active false".toList [] "Update Filter".toList
      " list active false".toList :=
    ⟨by decide, .mk (v := "Update".toList) (o := "Filter".toList) .english (by decide)
      (by decide : Gap [' ']) (by decide), ' ', by decide, by decide⟩
  have read : UpdateCommand.ofText "Update Filter list active false" =
      .ok ⟨"list", "active", "false"⟩ := by
    decide +kernel
  refine ⟨read, (Intent.of_parsed phrased read).2.2.mpr ⟨by decide +kernel, .inl ?_⟩⟩
  exact .mk (v := "Update".toList) (o := "Filter".toList) .english (by decide) (by decide)

/-- A command with two spaces in its phrase is read but not recognized, and one with a list phrase
in its value is read but taken as a request for the list. -/
theorem Intent.of_parsed_not_update :
    (Phrased "aggiorna  filtro X priority high".toList [] "aggiorna  filtro".toList
        " X priority high".toList ∧
      UpdateCommand.ofText "aggiorna  filtro X priority high" = .ok ⟨"X", "priority", "high"⟩ ∧
      Intent.of "aggiorna  filtro X priority high" = .unknown) ∧
    Phrased "update filter Work keywords list filters".toList [] "update filter".toList
        " Work keywords list filters".toList ∧
      UpdateCommand.ofText "update filter Work keywords list filters" =
        .ok ⟨"Work", "keywords", "list filters"⟩ ∧
      Intent.of "update filter Work keywords list filters" = .list := by
  refine ⟨⟨⟨by decide, ?_, ' ', by decide, by decide⟩, by decide +kernel, by decide +kernel⟩,
    ⟨by decide, ?_, ' ', by decide, by decide⟩, by decide +kernel, by decide +kernel⟩
  · exact .mk (v := "aggiorna".toList) (o := "filtro".toList) .italian (by decide)
      (by decide : Gap [' ', ' ']) (by decide)
  · exact .mk (v := "update".toList) (o := "filter".toList) .english (by decide)
      (by decide : Gap [' ']) (by decide)

end ChatTriage.Command

import ChatTriage.Matching
import ChatTriage.Proofs.Text.Sigma

/-!
# Keywords in a text

A filter looks for the lower case of a keyword in the lower case of a text (`Text.Finds`). A keyword
that stands in the text letter by letter is found when it stands there with the sigmas that it has
alone (`Text.HoldsSettled`). So a keyword without an open sigma is found wherever it stands; but one
with an open sigma is missed in some text that it stands in, since what is put before or after it
changes the form of that sigma.
-/

namespace ChatTriage

variable {text keyword : String} {keywords : List String}

namespace Text

/-- A keyword is found in a text without regard to case. -/
def Finds (text keyword : String) : Prop :=
  contains (lower text) (lower keyword) = true

/-- A keyword stands in a text at a place where its capital sigmas have the form that they have in
the keyword alone. -/
def HoldsSettled (text keyword : String) : Prop :=
  ∃ before after, text.toList = before ++ keyword.toList ++ after ∧
    SettledBetween before.reverse after keyword.toList

/-- A keyword is found when it stands in the text, both in small letters. -/
lemma finds_iff : Finds text keyword ↔ lowerChars keyword.toList <:+: lowerChars text.toList := by
  rw [Finds, contains_iff, lower, lower, String.toList_ofList, String.toList_ofList]

/-- A keyword is found where it stands with the sigmas that it has alone. -/
lemma HoldsSettled.finds (settled : HoldsSettled text keyword) : Finds text keyword := by
  obtain ⟨before, after, stands, sigmas⟩ := settled
  rw [finds_iff, stands, ← lowerBetween_eq_iff.mpr sigmas]
  exact lowerBetween_infix

/-- Without an open sigma a keyword has its own sigmas wherever it stands. -/
lemma holdsSettled_of_closed (stands : contains text keyword = true)
    (closed : ¬ OpenSigma keyword.toList) :
    HoldsSettled text keyword := by
  obtain ⟨before, after, parts⟩ := contains_iff.mp stands
  exact ⟨before, after, parts.symm, settledBetween_of_closed closed⟩

/-- A keyword is found in every text in which it stands exactly when it has no open sigma. -/
lemma finds_wherever_iff :
    (∀ text, contains text keyword = true → Finds text keyword) ↔ ¬ OpenSigma keyword.toList := by
  refine ⟨fun found sigma => ?_,
    fun closed text stands => (holdsSettled_of_closed stands closed).finds⟩
  obtain ⟨cs, stands, missed⟩ := sigma.exists_missed
  have finds := found (String.ofList cs) (contains_iff.mpr (by rwa [String.toList_ofList]))
  rw [finds_iff, String.toList_ofList] at finds
  exact missed finds

end Text

open Text (Finds HoldsSettled)

/-- Any keyword that is found accepts. -/
lemma keywordsAccept_any :
    keywordsAccept text keywords .any = true ↔ ∃ keyword ∈ keywords, Finds text keyword :=
  List.any_eq_true

/-- All keywords must be found to accept. -/
lemma keywordsAccept_all :
    keywordsAccept text keywords .all = true ↔ ∀ keyword ∈ keywords, Finds text keyword :=
  List.all_eq_true

namespace Filter

variable {f : Filter} {m : Message}

/-- Without keywords every text is accepted. -/
lemma textAccepts_of_no_keywords (none : f.keywords = []) : f.textAccepts m = .ok true := by
  rw [textAccepts, none]
  rfl

/-- A text that is not empty is asked for the keywords, if there are any. -/
lemma textAccepts_of_keywords (asks : f.keywords ≠ []) : f.textAccepts m =
    if m.text.truthy then (m.text.asText "lower").map (keywordsAccept · f.keywords f.keywordMode)
    else .ok false := by
  rw [textAccepts, List.isEmpty_eq_false_iff.mpr asks]
  cases m.text.truthy <;> rfl

/-- A text is accepted by its keywords. -/
lemma textAccepts_eq (carries : m.text = .str text) (filled : text ≠ "") (asks : f.keywords ≠ []) :
    f.textAccepts m = .ok (keywordsAccept text f.keywords f.keywordMode) := by
  have truthy : (Json.str text).truthy = true := by simp [Json.truthy, filled]
  rw [textAccepts_of_keywords asks, carries, truthy]
  rfl

/-- A keyword is found in every text in which it stands exactly when it has no open sigma; and in
any case where it stands with the sigmas that it has alone. So a filter finds its keywords in a text
that is not empty, if one of them or all of them, as it asks for, stand there like this. -/
theorem literal_keywords_are_found (f : Filter) (carries : m.text = .str text)
    (filled : text ≠ "") :
    (∀ keyword, (∀ text, Text.contains text keyword = true → Finds text keyword) ↔
      ¬ Text.OpenSigma keyword.toList) ∧
    (∀ keyword, Text.contains text keyword = true → ¬ Text.OpenSigma keyword.toList →
      HoldsSettled text keyword) ∧
    (∀ keyword, HoldsSettled text keyword → Finds text keyword) ∧
    (f.keywordMode = .any → (∃ keyword ∈ f.keywords, HoldsSettled text keyword) →
      f.textAccepts m = .ok true) ∧
    (f.keywordMode = .all → (∀ keyword ∈ f.keywords, HoldsSettled text keyword) →
      f.textAccepts m = .ok true) := by
  refine ⟨fun keyword => Text.finds_wherever_iff, fun keyword => Text.holdsSettled_of_closed,
    fun keyword => Text.HoldsSettled.finds, ?_, ?_⟩
  · rintro mode ⟨keyword, member, settled⟩
    rw [textAccepts_eq carries filled (List.ne_nil_of_mem member), mode,
      keywordsAccept_any.mpr ⟨keyword, member, settled.finds⟩]
  · intro mode settled
    by_cases none : f.keywords = []
    · exact textAccepts_of_no_keywords none
    · rw [textAccepts_eq carries filled none, mode,
        keywordsAccept_all.mpr fun keyword member => (settled keyword member).finds]

namespace Sample

/-- A filter that looks for keywords. -/
def looking (keywords : List String) (mode : KeywordMode) : Filter where
  id := .null
  name := "Looking"
  description := ""
  authors := []
  keywords := keywords
  keywordMode := mode
  messageTypes := []
  timeRange := none
  actions := ⟨false, none, [], ⟨false, ""⟩, [], false⟩
  enabled := true
  stats := {}

/-- A message with a text. -/
def saying (text : String) : Message where
  id := "one"
  sender := ⟨"+393470000001", .str "Mario", .null⟩
  content := { type := .text, text := .str text }
  timestamp := none

end Sample

open Sample in
/-- The sigma at the start of a word is settled by the letters after it, so such a word is found
everywhere. One at its end is not: the word is found before a blank, but not in a longer word. -/
theorem literal_keywords_are_found_before_blank :
    (∀ text, Text.contains text "ΣΗΜΑ" = true → Finds text "ΣΗΜΑ") ∧
    (looking ["ΠΡΟΣ"] .any).textAccepts (saying "ΠΡΟΣ ΟΛΟΥΣ") = .ok true ∧
    (looking ["ΠΡΟΣ", "ΟΛΟΥΣ"] .all).textAccepts (saying "ΠΡΟΣ ΟΛΟΥΣ") = .ok true ∧
    (¬ ∀ text, Text.contains text "ΠΡΟΣ" = true → Finds text "ΠΡΟΣ") ∧
    Text.contains "ΠΡΟΣΟΧΗ" "ΠΡΟΣ" = true ∧
    (looking ["ΠΡΟΣ"] .any).textAccepts (saying "ΠΡΟΣΟΧΗ") = .ok false := by
  have carries : (saying "ΠΡΟΣ ΟΛΟΥΣ").text = .str "ΠΡΟΣ ΟΛΟΥΣ" := rfl
  obtain ⟨everywhere, -, -, any, -⟩ :=
    literal_keywords_are_found (looking ["ΠΡΟΣ"] .any) carries (by decide)
  obtain ⟨-, -, -, -, all⟩ :=
    literal_keywords_are_found (looking ["ΠΡΟΣ", "ΟΛΟΥΣ"] .all) carries (by decide)
  have first : HoldsSettled "ΠΡΟΣ ΟΛΟΥΣ" "ΠΡΟΣ" :=
    ⟨[], " ΟΛΟΥΣ".toList, by decide, Text.lowerBetween_eq_iff.mp (by decide +kernel)⟩
  have second : HoldsSettled "ΠΡΟΣ ΟΛΟΥΣ" "ΟΛΟΥΣ" :=
    ⟨"ΠΡΟΣ ".toList, [], by decide, Text.lowerBetween_eq_iff.mp (by decide +kernel)⟩
  refine ⟨(everywhere "ΣΗΜΑ").mpr (by decide +kernel),
    any rfl ⟨_, List.mem_cons_self, first⟩, all rfl ?_, fun found =>
    (everywhere "ΠΡΟΣ").mp found (by decide +kernel), by decide +kernel, by decide +kernel⟩
  intro keyword member
  obtain rfl | rfl : keyword = "ΠΡΟΣ" ∨ keyword = "ΟΛΟΥΣ" := by simpa [looking] using member
  · exact first
  · exact second

end Filter

end ChatTriage

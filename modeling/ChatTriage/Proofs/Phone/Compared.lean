import ChatTriage.Matching
import ChatTriage.Proofs.Message.Document
import ChatTriage.Proofs.Phone
import ChatTriage.Proofs.Text.Digit
import ChatTriage.Proofs.Text.Search
import ChatTriage.Setup

/-!
# Numbers of operators and authors

There is one way in which numbers are the same (`SameNumber`), and it decides both who may give
commands and whom a filter without names looks for: `numbers_compare_alike`. The operators are the
pieces of a setting between commas, and neither the blanks around a piece nor a piece without digits
make a difference.
-/

namespace ChatTriage

namespace Phone

/-- The digits of two texts are the same, and there are some. -/
def SameNumber (m n : String) : Prop :=
  digitsOf n ≠ "" ∧ digitsOf m = digitsOf n

instance (m n : String) : Decidable (SameNumber m n) :=
  inferInstanceAs (Decidable (_ ∧ _))

variable {m n p : String}

/-- A text without digits is the same number as none. -/
lemma SameNumber.digits (same : SameNumber m n) : digitsOf m ≠ "" ∧ digitsOf n ≠ "" :=
  ⟨same.2 ▸ same.1, same.1⟩

/-- Trimming takes no digits away. -/
lemma digitsOf_trim (s : String) : digitsOf (Text.trim s) = digitsOf s := by
  unfold digitsOf Text.trim
  rw [String.toList_ofList, Text.filter_isDecimal_trimChars]

/-- Nor does it change the number. -/
lemma sameNumber_trim_iff : SameNumber (Text.trim m) n ↔ SameNumber m n := by
  rw [SameNumber, SameNumber, digitsOf_trim]

/-- Nothing is no number. -/
lemma not_sameNumber_empty : ¬ SameNumber "" n :=
  fun same => same.digits.1 (by decide)

/-- The digits of a text that may be missing are those of the text. -/
lemma digits_ofText? (text : Option String) : digits (.ofText? text) = digitsOf (text.getD "") := by
  cases text with
  | none => decide
  | some text => rfl

/-- A number is on the list of some texts when it is the same as one of them; a text that is missing
has no digits. -/
lemma AllowList.allows_texts_iff {α : Type} {xs : List α} {text : α → Option String} :
    (AllowList.of (xs.map fun x => .ofText? (text x))).allows (.str p) = true ↔
      ∃ x ∈ xs, SameNumber ((text x).getD "") p := by
  rw [allows_of_iff]
  simp only [List.mem_map, exists_exists_and_eq_and, digits_ofText?]
  constructor
  · rintro ⟨some, x, member, same⟩
    exact ⟨x, member, some, same⟩
  · rintro ⟨x, member, some, same⟩
    exact ⟨some, x, member, same⟩

end Phone

open Phone (SameNumber AllowList)

variable {env : Environment} {name root number : String} {s : Settings} {a : Author}
    {authors : List Author}
  {sender : Sender}

/-- The entries of a list that tell a number are the pieces between the commas that do. -/
lemma Environment.exists_commaList_iff : (∃ entry ∈ env.commaList name, SameNumber entry number) ↔
    ∃ piece ∈ ((env.get? name).getD "").toList.splitOn ',',
      SameNumber (String.ofList piece) number := by
  unfold commaList
  rw [Text.cut_eq]
  constructor
  · rintro ⟨entry, listed, same⟩
    obtain ⟨trimmed, -⟩ := List.mem_filter.mp listed
    rw [List.map_map] at trimmed
    obtain ⟨piece, member, rfl⟩ := List.mem_map.mp trimmed
    exact ⟨piece, member, Phone.sameNumber_trim_iff.mp same⟩
  · rintro ⟨piece, member, same⟩
    have same := Phone.sameNumber_trim_iff.mpr same
    refine ⟨_, List.mem_filter.mpr ⟨List.mem_map_of_mem (List.mem_map_of_mem member), ?_⟩, same⟩
    rw [Bool.not_eq_true', String.isEmpty_eq_false_iff]
    intro none
    rw [none] at same
    exact Phone.not_sameNumber_empty same

/-- The settings list the numbers of the environment. -/
lemma adminNumbers_of_load (loaded : Settings.load root env = .ok s) :
    s.adminNumbers = env.commaList "ADMIN_NUMBERS" := by
  obtain ⟨filters, -, rest⟩ := bind_eq_ok_iff.mp loaded
  obtain ⟨log, -, last⟩ := bind_eq_ok_iff.mp rest
  cases last
  rfl

/-- An author without a name is looked for by number. -/
lemma Author.isSender_iff (nameless : a.name = none ∨ a.name = some "") :
    a.isSender sender = true ↔ SameNumber (a.phone.getD "") sender.phone := by
  have byNumber : a.isSender sender =
      (!(Phone.digitsOf (a.phone.getD "")).isEmpty &&
        Phone.digitsOf (a.phone.getD "") = Phone.digitsOf sender.phone) := by
    have blank : Phone.digitsOf "" = "" := by decide
    unfold isSender
    obtain missing | empty := nameless
    · cases phone : a.phone with
      | none => simp [missing, blank]
      | some p => simp [missing]
    · cases phone : a.phone with
      | none => simp [empty, blank]
      | some p => simp [empty]
  rw [byNumber, Bool.and_eq_true, Bool.not_eq_true', String.isEmpty_eq_false_iff, decide_eq_true_eq]
  exact ⟨fun ⟨filled, same⟩ => ⟨same ▸ filled, same⟩, fun same => ⟨same.digits.1, same.2⟩⟩

/-- Authors without names accept by their numbers. -/
lemma authorsAccept_iff (nameless : ∀ a ∈ authors, a.name = none ∨ a.name = some "") :
    authorsAccept authors sender = true ↔
      ∃ a ∈ authors, SameNumber (a.phone.getD "") sender.phone := by
  rw [authorsAccept, List.any_eq_true]
  exact exists_congr fun a => and_congr_right fun member => Author.isSender_iff (nameless a member)

/-- A sender may give commands exactly when one of the pieces of the setting for them, between the
commas, tells the sender's number. A sender is looked for by authors without names exactly when one
of them tells the sender's number, which is when the sender is on the list of their numbers. Neither
a sender nor an entry without digits is found by this. -/
theorem numbers_compare_alike (loaded : Settings.load root env = .ok s) :
    (∀ zone routes (m : Message), (s.desk zone routes).isAdmin m = true ↔
      ∃ piece ∈ ((env.get? "ADMIN_NUMBERS").getD "").toList.splitOn ',',
        SameNumber (String.ofList piece) m.sender.phone) ∧
      (∀ (authors : List Author) (sender : Sender),
        (∀ a ∈ authors, a.name = none ∨ a.name = some "") →
        authorsAccept authors sender =
            (AllowList.of (authors.map fun a => .ofText? a.phone)).allows (.str sender.phone) ∧
          (authorsAccept authors sender = true ↔
            ∃ a ∈ authors, SameNumber (a.phone.getD "") sender.phone)) ∧
      ∀ m n, SameNumber m n → Phone.digitsOf m ≠ "" ∧ Phone.digitsOf n ≠ "" := by
  refine ⟨fun zone routes m => ?_, fun authors sender nameless => ?_, fun m n same => same.digits⟩
  · have listed : (s.desk zone routes).isAdmin m =
        (AllowList.of (s.adminNumbers.map fun t => .ofText? (some t))).allows
          (.str m.sender.phone) := rfl
    rw [listed, AllowList.allows_texts_iff, adminNumbers_of_load loaded]
    exact Environment.exists_commaList_iff
  · have accepted : authorsAccept authors sender = true ↔ _ := authorsAccept_iff nameless
    refine ⟨?_, accepted⟩
    rw [Bool.eq_iff_iff, accepted, AllowList.allows_texts_iff]

namespace Sample

/-- Two operators among blank entries. -/
def roster : Environment :=
  [("ADMIN_NUMBERS", " +39 347-000 0001 ,, n/a,0039 347 000 0002")]

/-- A message from a number. -/
def call (phone : String) : Message where
  id := "5:1"
  sender := { phone }
  content := { type := .text, text := .str "help" }
  timestamp := none

/-- Two authors without names, one of whom has no digits either. -/
def contacts : List Author :=
  [⟨some "n/a", some ""⟩, ⟨some "+39 347 000 0001", none⟩]

end Sample

open Sample in
/-- The first operator may give commands, and is the one whom the authors look for; a sender without
digits is neither. -/
theorem numbers_compare_alike_of_roster :
    ∃ s, Settings.load "/srv" roster = .ok s ∧
      (s.desk .utc []).isAdmin (call "393470000001") = true ∧
      (s.desk .utc []).isAdmin (call "n/a") = false ∧
      authorsAccept contacts (call "393470000001").sender =
        (AllowList.of [.str "n/a", .str "+39 347 000 0001"]).allows (.str "393470000001") := by
  obtain ⟨s, loaded⟩ : ∃ s, Settings.load "/srv" roster = .ok s := ⟨_, rfl⟩
  obtain ⟨operators, lookedFor, -⟩ := numbers_compare_alike loaded
  have first : " +39 347-000 0001 ".toList ∈
      ((roster.get? "ADMIN_NUMBERS").getD "").toList.splitOn ',' := by decide +kernel
  have same : SameNumber (String.ofList " +39 347-000 0001 ".toList) "393470000001" := by
    decide +kernel
  refine ⟨s, loaded, (operators .utc [] (call "393470000001")).mpr ⟨_, first, same⟩, ?_, ?_⟩
  · rw [Bool.eq_false_iff]
    intro listed
    obtain ⟨piece, -, some, -⟩ := (operators .utc [] (call "n/a")).mp listed
    exact some (by decide +kernel)
  · exact (lookedFor contacts (call "393470000001").sender (by decide)).1

end ChatTriage

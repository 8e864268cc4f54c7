import Mathlib.Data.List.Forall2
import ChatTriage.Command.Text
import ChatTriage.Proofs.Text.Casing

/-!
# Verb phrases

An update phrase is a verb and its object in any letter case with blanks between them. `FirstPhrase`
says which phrase of a text counts: the first that a blank follows. The scanner finds that phrase
and passes the blanks after it.
-/

namespace ChatTriage.Command

open Text (isBlank sameLetter trimLeft Blank Gap Solid)

variable {verb object : String}
    {cs before before' phrase phrase' rest rest' found : List Char} {c : Char}

/-- Characters that write a word, letter case apart. -/
def Writes (cs : List Char) (word : String) : Prop :=
  List.Forall₂ (fun w c => sameLetter w c = true) word.toList cs

instance {word : String} : Decidable (Writes cs word) :=
  inferInstanceAs (Decidable (List.Forall₂ _ word.toList cs))

/-- The verb of an update and its object. -/
inductive Verb : String → String → Prop
  | italian : Verb "aggiorna" "filtro"
  | english : Verb "update" "filter"

/-- An update phrase as it may be written. -/
inductive Phrase : List Char → Prop
  | mk {verb object : String} {v gap o : List Char} :
    Verb verb object → Writes v verb → Gap gap → Writes o object → Phrase (v ++ gap ++ o)

/-- A text that begins with a blank. -/
def Opens (cs : List Char) : Prop := ∃ c ∈ cs.head?, isBlank c = true

/-- A text with an update phrase in it that a blank follows. -/
structure Phrased (cs before phrase rest : List Char) : Prop where
  text : cs = before ++ phrase ++ rest
  phrase : Phrase phrase
  opens : Opens rest

/-- A text with its first update phrase that a blank follows. -/
structure FirstPhrase
    (cs before phrase rest : List Char) : Prop extends Phrased cs before phrase rest where
  first : ∀ before' phrase' rest', Phrased cs before' phrase' rest' → before.length ≤ before'.length

/-! ### Scanning -/

/-- A word is read letter by letter, in any case. -/
lemma afterWord?_eq_some_iff {word : List Char} :
    afterWord? word cs = some rest ↔
      ∃ v, List.Forall₂ (fun w c => sameLetter w c = true) word v ∧ cs = v ++ rest := by
  induction word generalizing cs with
  | nil =>
    constructor
    · rintro ⟨⟩
      exact ⟨[], .nil, rfl⟩
    · rintro ⟨v, ⟨⟩, rfl⟩
      rfl
  | cons w word ih =>
    cases cs with
    | nil =>
      constructor
      · rintro ⟨⟩
      · rintro ⟨v, ⟨⟩, ⟨⟩⟩
    | cons c cs =>
      rw [afterWord?]
      constructor
      · intro scanned
        split_ifs at scanned with same
        obtain ⟨v, written, rfl⟩ := ih.mp scanned
        exact ⟨c :: v, .cons same written, rfl⟩
      · rintro ⟨v, written, text⟩
        obtain ⟨d, v', same, later, rfl⟩ := List.forall₂_cons_left_iff.mp written
        obtain ⟨rfl, rfl⟩ := List.cons.inj text
        rw [if_pos same]
        exact ih.mpr ⟨v', later, rfl⟩

/-- Blanks are read if there are any. -/
lemma afterBlanks?_eq_some_iff : afterBlanks? cs = some rest ↔ Opens cs ∧ rest = trimLeft cs := by
  cases cs with
  | nil => simp [afterBlanks?, Opens]
  | cons c cs =>
    cases blank : isBlank c with
    | false => simp [afterBlanks?, Opens, blank]
    | true =>
      have passed : trimLeft (c :: cs) = cs.dropWhile isBlank := List.dropWhile_cons_of_pos blank
      simp only [afterBlanks?, Opens, blank, passed, ↓reduceIte, Option.some.injEq, List.head?_cons,
        Option.mem_some_iff, exists_eq_left', true_and]
      exact eq_comm

/-- What begins with a blank is a gap and the rest. -/
lemma Opens.exists_gap (opens : Opens cs) : ∃ gap, Gap gap ∧ cs = gap ++ trimLeft cs := by
  obtain ⟨gap, blank, text⟩ := Text.exists_append_trimLeft cs
  refine ⟨gap, ⟨?_, blank⟩, text⟩
  rintro rfl
  obtain ⟨c, head, leading⟩ := opens
  have solid := Text.trimLeft_eq_self_iff.mp text.symm c head
  exact Bool.noConfusion (leading.symm.trans solid)

/-- A gap opens. -/
lemma Opens.of_gap {gap : List Char} (gapped : Gap gap) : Opens (gap ++ cs) := by
  cases gap with
  | nil => exact absurd rfl gapped.wide
  | cons c gap => exact ⟨c, rfl, gapped.blank c List.mem_cons_self⟩

/-- A verb and its object with a space between them are an update phrase. -/
lemma Verb.spaced (which : Verb verb object) : Phrase (verb ++ " " ++ object).toList := by
  rw [String.toList_append, String.toList_append]
  exact .mk which (by cases which <;> decide) (by decide) (by cases which <;> decide)

/-- A verb is made of small letters. -/
lemma Verb.letters (which : Verb verb object) :
    ∀ word ∈ [verb, object], word.toList ≠ [] ∧
      ∀ w ∈ word.toList, w.toLower = w ∧ w.toNat < 128 ∧ isBlank w = false := by
  have letters : ∀ word ∈ [verb, object], word.toList ≠ [] ∧
      (word.toList.all fun w => w.toLower = w ∧ w.toNat < 128 ∧ isBlank w = false) = true := by
    cases which <;> decide
  exact fun word member => (letters word member).imp_right List.all_iff_forall_prop.mp

/-- What writes letters has no blanks. -/
lemma unbroken_of_forall₂ {word v : List Char}
    (letters : ∀ w ∈ word, w.toLower = w ∧ w.toNat < 128 ∧ isBlank w = false)
    (written : List.Forall₂ (fun w c => sameLetter w c = true) word v) :
    ∀ c ∈ v, isBlank c = false := by
  induction written with
  | nil => exact fun _ absent => absurd absent List.not_mem_nil
  | cons same _ ih =>
    obtain ⟨⟨small, ascii, solid⟩, later⟩ := List.forall_mem_cons.mp letters
    exact List.forall_mem_cons.mpr ⟨Text.solid_of_sameLetter small ascii solid same, ih later⟩

/-- What writes the verb or the object of an update is a word. -/
lemma Writes.solid {word : String} {v : List Char} (which : Verb verb object)
    (member : word ∈ [verb, object]) (written : Writes v word) : Solid v := by
  obtain ⟨filled, letters⟩ := which.letters word member
  refine ⟨?_, unbroken_of_forall₂ letters written⟩
  rintro rfl
  exact filled (List.forall₂_nil_right_iff.mp written)

/-- There is nothing to trim before a word. -/
lemma trimLeft_append_of_solid {o : List Char} (solid : Solid o) :
    trimLeft (o ++ rest) = o ++ rest := by
  rw [Text.trimLeft_eq_self_iff, List.head?_append_of_ne_nil o solid.filled]
  exact fun c head => solid.unbroken c (List.mem_of_head? head)

/-- The text after a phrase at the start is what stands after its blanks. -/
lemma afterPhrase?_eq_some_iff (which : Verb verb object) :
    afterPhrase? verb object cs = some found ↔
      ∃ v gap o rest, Writes v verb ∧ Gap gap ∧ Writes o object ∧ Opens rest ∧
        cs = v ++ gap ++ o ++ rest ∧ found = trimLeft rest := by
  simp only [afterPhrase?, Option.bind_eq_bind, Option.bind_eq_some_iff, afterWord?_eq_some_iff,
    afterBlanks?_eq_some_iff]
  constructor
  · rintro ⟨_, ⟨v, verb, rfl⟩, between, ⟨opens, rfl⟩, rest, ⟨o, object, text⟩, after, rfl⟩
    obtain ⟨gap, wide, spaced⟩ := opens.exists_gap
    exact ⟨v, gap, o, rest, verb, wide, object, after, by rw [spaced, text]; simp, rfl⟩
  · rintro ⟨v, gap, o, rest, verb, wide, object, opens, rfl, rfl⟩
    refine ⟨gap ++ (o ++ rest), ⟨v, verb, by simp⟩, o ++ rest, ⟨.of_gap wide, ?_⟩, rest,
      ⟨o, object, rfl⟩, opens, rfl⟩
    rw [Text.trimLeft_append_of_blank wide.blank,
      trimLeft_append_of_solid (object.solid which (by simp))]

/-- No text begins with both verbs. -/
lemma Writes.verb_unique {v v' : List Char} (written : Writes v "aggiorna")
    (written' : Writes v' "update")
    (same : v ++ rest = v' ++ rest') : False := by
  obtain ⟨c, w, letter, -, rfl⟩ := List.forall₂_cons_left_iff.mp written
  obtain ⟨d, w', letter', -, rfl⟩ := List.forall₂_cons_left_iff.mp written'
  obtain ⟨rfl, -⟩ := List.cons.inj same
  have letters : sameLetter 'a' 'u' = true := by
    simp only [sameLetter, beq_iff_eq] at letter letter' ⊢
    exact letter.trans letter'.symm
  exact absurd letters (by decide)

/-- A text begins with an update phrase exactly when the scanner finds one there. -/
lemma afterVerb?_eq_some_iff :
    afterVerb? cs = some found ↔ ∃ phrase rest, Phrased cs [] phrase rest ∧
      found = trimLeft rest := by
  rw [afterVerb?, Option.or_eq_some_iff, afterPhrase?_eq_some_iff .italian,
    afterPhrase?_eq_some_iff .english]
  constructor
  · rintro (⟨v, gap, o, rest, verb, wide, object, opens, rfl, rfl⟩ |
      ⟨-, v, gap, o, rest, verb, wide, object, opens, rfl, rfl⟩)
    · exact ⟨_, rest, ⟨rfl, .mk .italian verb wide object, opens⟩, rfl⟩
    · exact ⟨_, rest, ⟨rfl, .mk .english verb wide object, opens⟩, rfl⟩
  · rintro ⟨_, rest, ⟨rfl, ⟨which, verb, wide, object⟩, opens⟩, rfl⟩
    cases which with
    | italian => exact .inl ⟨_, _, _, rest, verb, wide, object, opens, rfl, rfl⟩
    | english =>
      refine .inr ⟨?_, _, _, _, rest, verb, wide, object, opens, rfl, rfl⟩
      by_contra scanned
      obtain ⟨_, scanned⟩ := Option.ne_none_iff_exists'.mp scanned
      obtain ⟨v, gap, o, rest', verb', -, -, -, text, -⟩ :=
        (afterPhrase?_eq_some_iff .italian).mp scanned
      rw [List.nil_append, List.append_assoc, List.append_assoc, List.append_assoc,
        List.append_assoc]
        at text
      exact verb'.verb_unique verb text.symm

/-- A phrase may come one character later. -/
lemma Phrased.cons (phrased : Phrased cs before phrase rest) :
    Phrased (c :: cs) (c :: before) phrase rest :=
  ⟨by rw [phrased.text]; rfl, phrased.phrase, phrased.opens⟩

/-- It may come one character earlier. -/
lemma Phrased.of_cons (phrased : Phrased (c :: cs) (c' :: before) phrase rest) :
    c = c' ∧ Phrased cs before phrase rest := by
  obtain ⟨text, isPhrase, opens⟩ := phrased
  obtain ⟨same, later⟩ := List.cons.inj text
  exact ⟨same, later, isPhrase, opens⟩

/-- There is no phrase in nothing. -/
lemma not_phrased_nil : ¬ Phrased [] before phrase rest := by
  rintro ⟨text, -, c, head, -⟩
  rw [eq_comm, List.append_eq_nil_iff] at text
  rw [text.2] at head
  exact absurd head (by simp)

/-- The scanner passes the first update phrase that a blank follows, and the blanks after it. -/
lemma afterFirstVerb?_eq_some_iff :
    afterFirstVerb? cs = some found ↔
      ∃ before phrase rest, FirstPhrase cs before phrase rest ∧ found = trimLeft rest := by
  induction cs with
  | nil =>
    constructor
    · rintro ⟨⟩
    · rintro ⟨before, phrase, rest, ⟨phrased, -⟩, -⟩
      exact (not_phrased_nil phrased).elim
  | cons c cs ih =>
    rw [afterFirstVerb?, Option.or_eq_some_iff, ih]
    constructor
    · rintro (here | ⟨none, before, phrase, rest, ⟨phrased, first⟩, rfl⟩)
      · obtain ⟨phrase, rest, phrased, rfl⟩ := afterVerb?_eq_some_iff.mp here
        exact ⟨[], phrase, rest, ⟨phrased, fun _ _ _ _ => Nat.zero_le _⟩, rfl⟩
      · refine ⟨c :: before, phrase, rest,
          ⟨phrased.cons, fun before' phrase' rest' other => ?_⟩, rfl⟩
        cases before' with
        | nil =>
          have here := afterVerb?_eq_some_iff.mpr ⟨phrase', rest', other, rfl⟩
          exact absurd (none.symm.trans here) (by simp)
        | cons d before' => exact Nat.succ_le_succ (first _ _ _ other.of_cons.2)
    · rintro ⟨before, phrase, rest, ⟨phrased, first⟩, rfl⟩
      cases before with
      | nil => exact .inl (afterVerb?_eq_some_iff.mpr ⟨phrase, rest, phrased, rfl⟩)
      | cons d before =>
        obtain ⟨rfl, later⟩ := phrased.of_cons
        refine .inr ⟨?_, before, phrase, rest, ⟨later, fun before' phrase' rest' other => ?_⟩, rfl⟩
        · by_contra here
          obtain ⟨_, here⟩ := Option.ne_none_iff_exists'.mp here
          obtain ⟨phrase', rest', other, -⟩ := afterVerb?_eq_some_iff.mp here
          exact absurd (first _ _ _ other) (Nat.not_succ_le_zero _)
        · exact Nat.le_of_succ_le_succ (first _ _ _ other.cons)

end ChatTriage.Command

import ChatTriage.Proofs.Text.Casing
import ChatTriage.Proofs.Text.Search

/-!
# Lowering a part of a text

A text is lowered character by character, but for the capital sigma, whose form tells whether it
ends a word. So the lower case of a part (`lowerBetween`) depends on what stands around it, and it
is the lower case of the part alone exactly when each of its sigmas has the same form there
(`SettledBetween`). A sigma is open when nothing in the part settles its form (`OpenSigma`). A part
without an open sigma is lowered alike everywhere; and one with an open sigma is not found any more
once a letter is put before or after it.
-/

namespace ChatTriage.Text

variable {before after cs xs ys : List Char} {c : Char}

/-- The lower case of a text that stands between `before`, which is in reverse, and `after`. -/
def lowerBetween (before after : List Char) : List Char → List Char
  | [] => []
  | c :: rest =>
    if c = 'Σ' then lowerSigma before (rest ++ after) :: lowerBetween (c :: before) after rest
    else if c = 'İ' then 'i' :: '\u0307' :: lowerBetween (c :: before) after rest
    else lowerChar c :: lowerBetween (c :: before) after rest

/-- Each capital sigma of a text has between `before`, which is in reverse, and `after` the form
that it has where the text stands alone. -/
def SettledBetween (before after cs : List Char) : Prop :=
  ∀ x y, cs = x ++ 'Σ' :: y → lowerSigma (x.reverse ++ before) (y ++ after) = lowerSigma x.reverse y

/-- A capital sigma whose form the text does not settle: a letter before the text would make it
final, or a letter after the text would keep it from being so. -/
inductive OpenSigma : List Char → Prop where
  | front {x y} :
    (∀ c ∈ x, isCaseIgnorable c = true) →
    casedAhead y = false →
    OpenSigma (x ++ 'Σ' :: y)
  | back {x y} :
    casedAhead x.reverse = true →
    (∀ c ∈ y, isCaseIgnorable c = true) →
    OpenSigma (x ++ 'Σ' :: y)

/-! ### The parts of a lowered text -/

/-- A text is lowered part by part. -/
lemma lowerFrom_parts :
    lowerFrom before (xs ++ ys) = lowerBetween before ys xs ++
      lowerFrom (xs.reverse ++ before) ys := by
  induction xs generalizing before with
  | nil => rfl
  | cons c xs ih =>
    rw [List.cons_append, lowerFrom, lowerBetween, ih, List.reverse_cons, List.append_assoc,
      List.singleton_append]
    split_ifs <;> rfl

/-- At the end of the text there is nothing to look ahead to. -/
lemma lowerBetween_nil : lowerBetween before [] cs = lowerFrom before cs := by
  have parts : lowerFrom before (cs ++ []) = lowerBetween before [] cs ++
      lowerFrom (cs.reverse ++ before) [] :=
    lowerFrom_parts
  rw [List.append_nil] at parts
  rw [parts, lowerFrom, List.append_nil]

/-- What is lowered between other parts stands between them in the lower case. -/
lemma lowerBetween_infix :
    lowerBetween before.reverse after cs <:+: lowerChars (before ++ cs ++ after) := by
  refine ⟨lowerBetween [] (cs ++ after) before, lowerFrom (cs.reverse ++ before.reverse) after, ?_⟩
  rw [lowerChars, List.append_assoc before, lowerFrom_parts, lowerFrom_parts, List.append_nil,
    List.append_assoc]

/-- What is lowered has as many characters wherever it stands. -/
lemma length_lowerBetween {before' after' : List Char} :
    (lowerBetween before after cs).length = (lowerBetween before' after' cs).length := by
  induction cs generalizing before before' with
  | nil => rfl
  | cons c cs ih =>
    rw [lowerBetween, lowerBetween]
    split_ifs
    · exact congrArg (· + 1) ih
    · exact congrArg (· + 2) ih
    · exact congrArg (· + 1) ih

/-- A statement about every capital sigma is one about the first character and one about the
others. -/
lemma forall_sigma_cons {P : List Char → List Char → Prop} :
    (∀ x y, c :: cs = x ++ 'Σ' :: y → P x y) ↔
      (c = 'Σ' → P [] cs) ∧ ∀ x y, cs = x ++ 'Σ' :: y → P (c :: x) y := by
  constructor
  · intro all
    refine ⟨?_, fun x y split => all (c :: x) y (congrArg _ split)⟩
    rintro rfl
    exact all [] cs rfl
  · rintro ⟨first, others⟩ x y split
    cases x with
    | nil =>
      cases split
      exact first rfl
    | cons d x =>
      cases split
      exact others x y rfl

/-- There is no sigma in nothing. -/
lemma no_sigma_nil (x y : List Char) : [] ≠ x ++ 'Σ' :: y :=
  (List.append_ne_nil_of_right_ne_nil x (List.cons_ne_nil 'Σ' y)).symm

/-- A part is lowered as after `passed` alone when its sigmas have the form that they have there. -/
lemma lowerBetween_eq_lowerFrom_iff {passed : List Char} :
    lowerBetween (passed ++ before) after cs = lowerFrom passed cs ↔
      ∀ x y, cs = x ++ 'Σ' :: y →
        lowerSigma (x.reverse ++ passed ++ before) (y ++ after) =
          lowerSigma (x.reverse ++ passed) y := by
  induction cs generalizing passed with
  | nil => exact iff_of_true rfl fun x y split => absurd split (no_sigma_nil x y)
  | cons c cs ih =>
    have rest := @ih (c :: passed)
    rw [forall_sigma_cons, lowerBetween, lowerFrom]
    simp only [List.reverse_cons, List.append_assoc, List.reverse_nil, List.nil_append,
      List.cons_append]
      at rest ⊢
    split_ifs with sigma dotted
    · rw [List.cons_eq_cons, rest]
      simp [sigma]
    · rw [List.cons_eq_cons, List.cons_eq_cons, rest]
      simp [sigma]
    · rw [List.cons_eq_cons, rest]
      simp [sigma]

/-- A part is lowered as it is alone exactly when its sigmas are settled. -/
lemma lowerBetween_eq_iff :
    lowerBetween before after cs = lowerChars cs ↔ SettledBetween before after cs := by
  have general := @lowerBetween_eq_lowerFrom_iff before after cs []
  rw [lowerChars, SettledBetween]
  simpa only [List.nil_append, List.append_nil] using general

/-! ### Which letter counts -/

/-- What the decision on a sigma looks through can be left out. -/
lemma casedAhead_append_of_ignorable (through : ∀ c ∈ xs, isCaseIgnorable c = true) :
    casedAhead (xs ++ ys) = casedAhead ys := by
  rw [casedAhead, List.dropWhile_append_of_pos through, casedAhead]

/-- What stands behind a character that counts makes no difference. -/
lemma casedAhead_append_of_counting (counts : ¬ ∀ c ∈ xs, isCaseIgnorable c = true) :
    casedAhead (xs ++ ys) = casedAhead xs := by
  have some : xs.dropWhile isCaseIgnorable ≠ [] :=
    fun none => counts (List.dropWhile_eq_nil_iff.mp none)
  obtain ⟨c, rest, found⟩ := List.exists_cons_of_ne_nil some
  rw [casedAhead, casedAhead, List.dropWhile_append, found]
  rfl

/-- Not everything ahead of a letter is ignorable. -/
lemma not_ignorable_of_casedAhead (cased : casedAhead xs = true) :
    ¬ ∀ c ∈ xs, isCaseIgnorable c = true := by
  intro through
  rw [casedAhead, List.dropWhile_eq_nil_iff.mpr through] at cased
  cases cased

/-- The sigmas of a part without an open one are settled wherever it stands. -/
lemma settledBetween_of_closed (closed : ¬ OpenSigma cs) : SettledBetween before after cs := by
  rintro x y rfl
  rw [lowerSigma, lowerSigma]
  by_cases front : ∀ c ∈ x, isCaseIgnorable c = true
  · have ahead : casedAhead y = true := by
      by_contra uncased
      exact closed (.front front (Bool.eq_false_iff.mpr uncased))
    rw [casedAhead_append_of_counting (not_ignorable_of_casedAhead ahead), ahead]
    simp
  · have counts : ¬ ∀ c ∈ x.reverse, isCaseIgnorable c = true := by
      simpa only [List.mem_reverse] using front
    rw [casedAhead_append_of_counting counts]
    by_cases cased : casedAhead x.reverse = true
    · have settled : ¬ ∀ c ∈ y, isCaseIgnorable c = true := fun back => closed (.back cased back)
      rw [casedAhead_append_of_counting settled]
    · simp [cased]

/-! ### Parts with an open sigma -/

/-- A sigma with `passed`, which is in reverse, before it and `rest` after it is open. -/
def opensBetween (passed rest : List Char) : Bool :=
  passed.all isCaseIgnorable && !casedAhead rest || casedAhead passed && rest.all isCaseIgnorable

/-- A text that stands after `passed`, which is in reverse, has an open sigma. -/
def opensAfter (passed : List Char) : List Char → Bool
  | [] => false
  | c :: rest => c = 'Σ' && opensBetween passed rest || opensAfter (c :: passed) rest

/-- A text is closed if each of its sigmas is. -/
lemma opensAfter_eq_false_iff {passed : List Char} : opensAfter passed cs = false ↔
    ∀ x y, cs = x ++ 'Σ' :: y → opensBetween (x.reverse ++ passed) y = false := by
  induction cs generalizing passed with
  | nil => exact iff_of_true rfl fun x y split => absurd split (no_sigma_nil x y)
  | cons c cs ih =>
    rw [forall_sigma_cons, opensAfter, Bool.or_eq_false_iff, ih]
    simp

/-- A sigma is open at either end of a word. -/
lemma opensBetween_iff {passed rest : List Char} : opensBetween passed rest = true ↔
    (∀ c ∈ passed, isCaseIgnorable c = true) ∧ casedAhead rest = false ∨
      casedAhead passed = true ∧ ∀ c ∈ rest, isCaseIgnorable c = true := by
  rw [opensBetween, Bool.or_eq_true, Bool.and_eq_true, Bool.and_eq_true, Bool.not_eq_true',
    List.all_eq_true, List.all_eq_true]

/-- A sigma is open when the characters on its two sides leave it so. -/
lemma openSigma_iff_exists :
    OpenSigma cs ↔ ∃ x y, cs = x ++ 'Σ' :: y ∧ opensBetween x.reverse y = true := by
  simp only [opensBetween_iff, List.mem_reverse]
  constructor
  · rintro (⟨front, uncased⟩ | ⟨cased, back⟩)
    · exact ⟨_, _, rfl, .inl ⟨front, uncased⟩⟩
    · exact ⟨_, _, rfl, .inr ⟨cased, back⟩⟩
  · rintro ⟨x, y, rfl, ⟨front, uncased⟩ | ⟨cased, back⟩⟩
    · exact .front front uncased
    · exact .back cased back

/-- A keyword has an open sigma when it opens by itself. -/
lemma openSigma_iff : OpenSigma cs ↔ opensAfter [] cs = true := by
  rw [openSigma_iff_exists, ← Bool.not_eq_false, opensAfter_eq_false_iff]
  simp

instance : Decidable (OpenSigma cs) :=
  decidable_of_iff _ openSigma_iff.symm

/-- A character that is looked through is lowered on its own, and not to the letter `a`. -/
lemma lowerChar_of_ignorable (through : isCaseIgnorable c = true) :
    c ≠ 'Σ' ∧ c ≠ 'İ' ∧ lowerChar c ≠ 'a' := by
  refine ⟨?_, ?_, fun letter => ?_⟩
  · rintro rfl
    exact absurd through (by decide +kernel)
  · rintro rfl
    exact absurd through (by decide +kernel)
  · by_cases ascii : c.toNat < 128
    · rw [lowerChar, if_pos ascii] at letter
      exact ascii_forall (P := fun c => isCaseIgnorable c = true → c.toLower ≠ 'a')
        (by decide +kernel) ascii
        through letter
    · have other : c ≠ kelvin := by
        rintro rfl
        exact absurd through (by decide +kernel)
      obtain same | ⟨beyond, -⟩ := lowerChar_cases (Nat.not_lt.mp ascii) other
      · rw [same] at letter
        subst letter
        exact ascii (by decide)
      · rw [letter] at beyond
        exact absurd beyond (by decide)

/-- What is ignorable is put into small letters sign by sign. -/
lemma lowerBetween_of_ignorable (through : ∀ c ∈ cs, isCaseIgnorable c = true) :
    lowerBetween before after cs = cs.map lowerChar := by
  induction cs generalizing before with
  | nil => rfl
  | cons c cs ih =>
    obtain ⟨first, others⟩ := List.forall_mem_cons.mp through
    obtain ⟨sigma, dotted, -⟩ := lowerChar_of_ignorable first
    rw [lowerBetween, if_neg sigma, if_neg dotted, ih others, List.map_cons]

/-- No letter `a` comes from a sigma and what is looked through. -/
lemma not_mem_lowered_sigma (through : ∀ c ∈ cs, isCaseIgnorable c = true) :
    'a' ∉ lowerSigma xs ys :: cs.map lowerChar := by
  intro member
  obtain sigma | later := List.mem_cons.mp member
  · rw [lowerSigma] at sigma
    split_ifs at sigma <;> exact absurd sigma (by decide)
  · obtain ⟨c, among, letter⟩ := List.mem_map.mp later
    exact (lowerChar_of_ignorable (through c among)).2.2 letter

/-- A character stands first or further on. -/
lemma mem_of_prefix_cons {zs ws us : List Char} {d : Char} (first : zs ++ d :: ws <+: c :: us) :
    c ∈ d :: zs := by
  cases zs with
  | nil => exact (List.cons_prefix_cons.mp first).1 ▸ List.mem_cons_self
  | cons e zs => exact (List.cons_prefix_cons.mp first).1 ▸ .tail _ (.head _)

/-- The lower case of a text with a capital sigma in it. -/
lemma lowerChars_sigma : lowerChars (xs ++ 'Σ' :: ys) =
    lowerBetween [] ('Σ' :: ys) xs ++ lowerSigma xs.reverse ys :: lowerBetween
      ('Σ' :: xs.reverse) [] ys := by
  rw [lowerChars, lowerFrom_parts, lowerFrom, if_pos rfl, lowerBetween_nil, List.append_nil]

/-- A letter before a part that is open at its front. -/
lemma not_infix_after_letter (front : ∀ c ∈ xs, isCaseIgnorable c = true)
    (uncased : casedAhead ys = false) :
    ¬ lowerChars (xs ++ 'Σ' :: ys) <:+: lowerChars ('a' :: (xs ++ 'Σ' :: ys)) := by
  have lowered : lowerChars ('a' :: (xs ++ 'Σ' :: ys)) =
      'a' :: lowerBetween ['a'] [] (xs ++ 'Σ' :: ys) := by
    rw [lowerBetween_nil]
    rfl
  have length : (lowerChars (xs ++ 'Σ' :: ys)).length =
      (lowerBetween ['a'] [] (xs ++ 'Σ' :: ys)).length := by
    rw [lowerChars, ← lowerBetween_nil]
    exact length_lowerBetween
  rw [lowered, infix_cons_iff_of_length length]
  rintro (same | first)
  · -- alone the sigma is not final, as no letter stands before it
    have through : ∀ c ∈ xs.reverse, isCaseIgnorable c = true := by
      simpa only [List.mem_reverse] using front
    have alone : casedAhead xs.reverse = false := by
      rw [casedAhead, List.dropWhile_eq_nil_iff.mpr through]
    have settled := lowerBetween_eq_iff.mp same.symm xs ys rfl
    rw [lowerSigma, lowerSigma, casedAhead_append_of_ignorable through, List.append_nil, alone,
      uncased] at settled
    exact absurd settled (by decide +kernel)
  · rw [lowerChars_sigma, lowerBetween_of_ignorable front] at first
    exact not_mem_lowered_sigma front (mem_of_prefix_cons first)

/-- A letter after a part that is open at its back. -/
lemma not_infix_before_letter (cased : casedAhead xs.reverse = true)
    (back : ∀ c ∈ ys, isCaseIgnorable c = true) :
    ¬ lowerChars (xs ++ 'Σ' :: ys) <:+: lowerChars (xs ++ 'Σ' :: ys ++ ['a']) := by
  have lowered : lowerChars (xs ++ 'Σ' :: ys ++ ['a']) =
      lowerBetween [] ['a'] (xs ++ 'Σ' :: ys) ++ ['a'] := by
    rw [lowerChars, lowerFrom_parts]
    rfl
  have length : (lowerChars (xs ++ 'Σ' :: ys)).reverse.length =
      (lowerBetween [] ['a'] (xs ++ 'Σ' :: ys)).reverse.length := by
    rw [lowerChars, ← lowerBetween_nil, List.length_reverse, List.length_reverse]
    exact length_lowerBetween
  rw [lowered, ← List.reverse_infix, List.reverse_append, List.reverse_singleton,
    List.singleton_append, infix_cons_iff_of_length length]
  rintro (same | first)
  · -- alone the sigma is final, as no letter stands after it
    have alone : casedAhead ys = false := by
      rw [casedAhead, List.dropWhile_eq_nil_iff.mpr back]
    have settled := lowerBetween_eq_iff.mp (List.reverse_injective same).symm xs ys rfl
    rw [lowerSigma, lowerSigma, casedAhead_append_of_ignorable back, List.append_nil, alone,
      cased] at settled
    exact absurd settled (by decide +kernel)
  · rw [lowerChars_sigma, lowerBetween_of_ignorable back, List.reverse_append, List.reverse_cons,
      List.append_assoc, List.singleton_append] at first
    have member := mem_of_prefix_cons first
    rw [List.mem_cons, List.mem_reverse, ← List.mem_cons] at member
    exact not_mem_lowered_sigma back member

/-- A part with an open sigma stands in a text in whose lower case its own is not found. -/
lemma OpenSigma.exists_missed (sigma : OpenSigma cs) :
    ∃ text, cs <:+: text ∧ ¬ lowerChars cs <:+: lowerChars text := by
  cases sigma with
  | front through uncased =>
      exact ⟨_, List.infix_cons List.infix_rfl, not_infix_after_letter through uncased⟩
  | back cased through =>
      exact ⟨_, List.infix_append [] _ ['a'], not_infix_before_letter cased through⟩

end ChatTriage.Text

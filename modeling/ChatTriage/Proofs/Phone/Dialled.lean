import ChatTriage.Proofs.Phone

/-!
# Numbers that are dialled

A text can be dialled when it has enough digits and no plus sign but one before all of them
(`PlusLeads`). It is then dialled as a plus sign and its digits (`format_eq_ok_iff`), so that the
number that is dialled is the one that is compared with others: `format_agrees_with_digits`.
-/

namespace ChatTriage.Phone

variable {raw number : String} {cs before after : List Char} {c : Char}

/-- A text has no plus sign, or a single one that comes before all of its digits. -/
inductive PlusLeads : List Char → Prop where
  | unsigned {cs : List Char} :
    '+' ∉ cs →
    PlusLeads cs
  | signed {before after : List Char} :
    '+' ∉ before →
    (∀ c ∈ before, Text.isDecimal c = false) →
    '+' ∉ after →
    PlusLeads (before ++ '+' :: after)

/-- What is kept of a number without the plus sign that it may begin with. -/
def unsigned : List Char → List Char
  | '+' :: rest => rest
  | cs => cs

/-- The characters of a text that can belong to a number, without a plus sign at their front. -/
def body (cs : List Char) : List Char :=
  unsigned (cs.filter isDialled)

/-- Digits are dialled. -/
lemma isDialled_of_isDecimal (decimal : Text.isDecimal c = true) : isDialled c = true := by
  rw [isDialled, decimal, Bool.true_or]

/-- Only digits and the plus sign are dialled. -/
lemma isDialled_iff : isDialled c = true ↔ Text.isDecimal c = true ∨ c = '+' := by
  rw [isDialled, Bool.or_eq_true, decide_eq_true_eq]

/-- There is a sign only at the front. -/
lemma unsigned_of_ne (other : c ≠ '+') : unsigned (c :: cs) = c :: cs := by
  unfold unsigned
  split
  · rename_i same
    exact absurd (List.cons.inj same).1 other
  · rfl

/-- Nothing but a sign is taken away. -/
lemma unsigned_subset : unsigned cs ⊆ cs := by
  cases cs with
  | nil => exact List.Subset.refl []
  | cons c cs =>
    by_cases plus : c = '+'
    · subst plus
      exact List.subset_cons_self '+' cs
    · rw [unsigned_of_ne plus]
      exact List.Subset.refl (c :: cs)

/-- A plus sign is no digit, so nothing is lost with it. -/
lemma filter_unsigned : (unsigned cs).filter Text.isDecimal = cs.filter Text.isDecimal := by
  cases cs with
  | nil => rfl
  | cons c cs =>
    by_cases plus : c = '+'
    · subst plus
      exact (List.filter_cons_of_neg (by decide)).symm
    · rw [unsigned_of_ne plus]

/-- The digits of the body are those of the text. -/
lemma filter_body : (body cs).filter Text.isDecimal = cs.filter Text.isDecimal := by
  rw [body, filter_unsigned, List.filter_filter]
  refine List.filter_congr fun c _ => ?_
  cases decimal : Text.isDecimal c with
  | false => rfl
  | true => rw [isDialled_of_isDecimal decimal, Bool.true_and]

/-- Without a plus sign only digits are left. -/
lemma isDecimal_of_mem_body (none : '+' ∉ body cs) (member : c ∈ body cs) :
    Text.isDecimal c = true := by
  have dialled : isDialled c = true := List.of_mem_filter (unsigned_subset member)
  obtain decimal | rfl := isDialled_iff.mp dialled
  · exact decimal
  · exact absurd member none

/-- A body without a plus sign is the digits of the text. -/
lemma body_eq (none : '+' ∉ body cs) : body cs = cs.filter Text.isDecimal := by
  rw [← filter_body, eq_comm, List.filter_eq_self]
  exact fun c => isDecimal_of_mem_body none

/-- The characters that are left stand for digits unless there is a plus sign among them. -/
lemma all_body_iff : (body cs).all Text.isDigitSign = true ↔ '+' ∉ body cs := by
  rw [List.all_eq_true]
  constructor
  · intro signs plus
    exact absurd (signs '+' plus) (by decide)
  · exact fun none c member => Text.isDigitSign_of_isDecimal (isDecimal_of_mem_body none member)

/-- Nothing is kept of a text without digits and plus signs. -/
lemma filter_eq_nil_iff :
    cs.filter isDialled = [] ↔ '+' ∉ cs ∧ ∀ c ∈ cs, Text.isDecimal c = false := by
  rw [List.filter_eq_nil_iff]
  constructor
  · intro none
    refine ⟨fun plus => none '+' plus (by decide), fun c member => ?_⟩
    rw [Bool.eq_false_iff]
    exact fun decimal => none c member (isDialled_of_isDecimal decimal)
  · rintro ⟨unsigned, undigited⟩ c member dialled
    obtain decimal | rfl := isDialled_iff.mp dialled
    · exact absurd (undigited c member) (by simp [decimal])
    · exact unsigned member

/-- Before all digits a plus sign is the one that the number begins with. -/
lemma body_of_leading (none : before.filter isDialled = []) :
    body (before ++ '+' :: after) = after.filter isDialled := by
  unfold body
  rw [List.filter_append, none, List.filter_cons_of_pos (by decide)]
  rfl

/-- After a digit a plus sign is left. -/
lemma mem_body_of_digits (first : '+' ∉ before) (some : before.filter isDialled ≠ []) :
    '+' ∈ body (before ++ '+' :: after) := by
  unfold body
  rw [List.filter_append, List.filter_cons_of_pos (by decide)]
  cases kept : before.filter isDialled with
  | nil => exact absurd kept some
  | cons d ds =>
    have member : d ∈ before.filter isDialled := kept ▸ List.mem_cons_self
    have other : d ≠ '+' := by
      rintro rfl
      exact first (List.mem_filter.mp member).1
    rw [List.cons_append, unsigned_of_ne other]
    exact List.mem_cons_of_mem d (List.mem_append_right ds List.mem_cons_self)

/-- A plus sign is left unless a single one comes before all digits. -/
lemma not_mem_body_iff : '+' ∉ body cs ↔ PlusLeads cs := by
  constructor
  · intro none
    by_cases plus : '+' ∈ cs
    · obtain ⟨before, after, rfl, first⟩ := List.eq_append_cons_of_mem plus
      have leading : before.filter isDialled = [] :=
        Classical.byContradiction fun some => none (mem_body_of_digits first some)
      rw [body_of_leading leading] at none
      exact .signed first (filter_eq_nil_iff.mp leading).2 fun later =>
        none (List.mem_filter.mpr ⟨later, by decide⟩)
    · exact .unsigned plus
  · intro leads member
    cases leads with
    | unsigned none => exact none (List.mem_filter.mp (unsigned_subset member)).1
    | signed first undigited last =>
      rw [body_of_leading (filter_eq_nil_iff.mpr ⟨first, undigited⟩)] at member
      exact last (List.mem_filter.mp member).1

/-- A text is formatted if its body is digits, and enough of them. -/
lemma format_str : format (.str raw) =
    if (body raw.toList).isEmpty || !(body raw.toList).all Text.isDigitSign then
      .error (.value (.phoneCharacters (.str raw)))
    else if (body raw.toList).length < minDigits then .error (.value (.phoneTooShort (.str raw)))
    else .ok (String.ofList ('+' :: body raw.toList)) := by
  have kept : (if (Json.str raw).truthy then (Json.str raw).shown.toList.filter isDialled else []) =
      raw.toList.filter isDialled := by
    cases there : (Json.str raw).truthy with
    | true => rfl
    | false =>
      have none : raw = "" := by simpa [Json.truthy] using there
      subst none
      rfl
  unfold format
  rw [kept]
  rfl

/-- A text that cannot be dialled is refused for its characters or for its length. -/
lemma exists_of_format_error {f : Fault} (refused : format (.str raw) = .error f) :
    ∃ cause, f = .value cause := by
  rw [format_str] at refused
  split_ifs at refused
  · exact ⟨_, (Except.error.inj refused).symm⟩
  · exact ⟨_, (Except.error.inj refused).symm⟩

/-- Such a body is as long as there are digits. -/
lemma length_body (none : '+' ∉ body raw.toList) :
    (body raw.toList).length = (digitsOf raw).length := by
  rw [body_eq none, digitsOf, String.length_ofList]

/-- It is written behind a plus sign. -/
lemma ofList_body (none : '+' ∉ body raw.toList) :
    String.ofList ('+' :: body raw.toList) = "+" ++ digitsOf raw := by
  rw [body_eq none, digitsOf, ← List.singleton_append, String.ofList_append]

/-- A text is dialled as a plus sign and its digits, if these are enough and no plus sign is out of
place. -/
lemma format_eq_ok_iff : format (.str raw) = .ok number ↔
    7 ≤ (digitsOf raw).length ∧ PlusLeads raw.toList ∧ number = "+" ++ digitsOf raw := by
  rw [format_str, ← not_mem_body_iff]
  constructor
  · intro dialled
    split_ifs at dialled with refused short
    cases dialled
    rw [Bool.or_eq_true, not_or, Bool.not_eq_true', Bool.not_eq_false] at refused
    have none := all_body_iff.mp refused.2
    exact ⟨length_body none ▸ Nat.le_of_not_lt short, none, ofList_body none⟩
  · rintro ⟨enough, none, rfl⟩
    have long : ¬ (body raw.toList).length < minDigits := by
      rw [length_body none]
      exact Nat.not_lt.mpr enough
    have filled : (body raw.toList).isEmpty = false :=
      List.isEmpty_eq_false_iff.mpr fun empty => long (by rw [empty]; decide)
    rw [filled, all_body_iff.mpr none, if_neg (by decide), if_neg long, ofList_body none]

/-- The number that is dialled has the digits of the text. -/
lemma digitsOf_dialled : digitsOf ("+" ++ digitsOf raw) = digitsOf raw := by
  have plus : digitsOf "+" = "" := by decide
  rw [digitsOf_append, digitsOf_digitsOf, plus, String.empty_append]

/-- It has its plus sign before them. -/
lemma plusLeads_dialled : PlusLeads ("+" ++ digitsOf raw).toList := by
  have plus : '+' ∉ (digitsOf raw).toList := by
    rw [digitsOf, String.toList_ofList, List.mem_filter]
    exact fun ⟨_, decimal⟩ => absurd decimal (by decide)
  rw [String.toList_append]
  exact .signed List.not_mem_nil (fun _ none => absurd none List.not_mem_nil) plus

/-- So it is dialled as it is written. -/
lemma format_dialled (enough : 7 ≤ (digitsOf raw).length) :
    format (.str ("+" ++ digitsOf raw)) = .ok ("+" ++ digitsOf raw) :=
  format_eq_ok_iff.mpr ⟨by rwa [digitsOf_dialled], plusLeads_dialled, by rw [digitsOf_dialled]⟩

/-- A plus sign and digits are dialled as they are. -/
lemma format_of_digits {digits : List Char} (decimal : ∀ c ∈ digits, Text.isDecimal c = true)
    (enough : minDigits ≤ digits.length) :
    format (.str (String.ofList ('+' :: digits))) = .ok (String.ofList ('+' :: digits)) := by
  have same : digitsOf (String.ofList digits) = String.ofList digits := by
    rw [digitsOf, String.toList_ofList, List.filter_eq_self.mpr decimal]
  have whole : String.ofList ('+' :: digits) = "+" ++ digitsOf (String.ofList digits) := by
    rw [same, ← List.singleton_append, String.ofList_append]
  rw [whole]
  exact format_dialled (by rwa [same, String.length_ofList])

/-- Numbers with the same digits are on the same lists. -/
lemma AllowList.allows_congr {list : AllowList} {m n : String} (same : digitsOf m = digitsOf n) :
    list.allows (.str m) = list.allows (.str n) := by
  have digits : Phone.digits (.str m) = Phone.digits (.str n) := same
  unfold allows
  rw [digits]

/-- A text is dialled exactly when it has seven digits or more and no plus sign but one before all
of them. What is dialled then is a plus sign and these digits. That is dialled as it is written, and
it is on a list exactly when the text is. -/
theorem format_agrees_with_digits (raw : String) :
    ((∃ number, format (.str raw) = .ok number) ↔ 7 ≤ (digitsOf raw).length ∧
      PlusLeads raw.toList) ∧
      ∀ number, format (.str raw) = .ok number →
        number = "+" ++ digitsOf raw ∧ format (.str number) = .ok number ∧
          ∀ list : AllowList, list.allows (.str raw) = list.allows (.str number) := by
  constructor
  · constructor
    · rintro ⟨number, dialled⟩
      obtain ⟨enough, leads, -⟩ := format_eq_ok_iff.mp dialled
      exact ⟨enough, leads⟩
    · rintro ⟨enough, leads⟩
      exact ⟨_, format_eq_ok_iff.mpr ⟨enough, leads, rfl⟩⟩
  · intro number dialled
    obtain ⟨enough, -, rfl⟩ := format_eq_ok_iff.mp dialled
    exact ⟨rfl, format_dialled enough, fun list => AllowList.allows_congr digitsOf_dialled.symm⟩

/-- A number with blanks and brackets, and with digits of two scripts, is dialled by its digits. -/
theorem format_agrees_with_digits_bracketed :
    format (.str " (+39) 347-٠٠٠ 1") = .ok "+39347٠٠٠1" ∧
      format (.str "+39347٠٠٠1") = .ok "+39347٠٠٠1" ∧
      (AllowList.of [.str "39347٠٠٠1"]).allows (.str "+39347٠٠٠1") = true := by
  have dialled : format (.str " (+39) 347-٠٠٠ 1") = .ok "+39347٠٠٠1" := by decide +kernel
  obtain ⟨-, again, alike⟩ := (format_agrees_with_digits " (+39) 347-٠٠٠ 1").2 _ dialled
  refine ⟨dialled, again, ?_⟩
  rw [← alike]
  decide +kernel

end ChatTriage.Phone

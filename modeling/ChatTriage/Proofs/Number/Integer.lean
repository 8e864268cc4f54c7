import Mathlib.Data.List.Basic
import ChatTriage.Number.Integer
import ChatTriage.Proofs.Text.Digit

/-!
# Whole numbers read back

Digits of all scripts are read as the number that they write, as long as they are no more than are
read (`Number.readInteger_of_decimals`), and of the texts that consist of signs for digits no others
are read (`Number.exists_readInteger_iff`).
-/

namespace ChatTriage.Number

variable {c : Char} {cs : List Char}

/-- There are no blanks to be dropped around signs for digits. -/
lemma trimNumber_of_signs (signs : ∀ c ∈ cs, Text.isDigitSign c = true) : trimNumber cs = cs := by
  have solid (xs : List Char) (all : ∀ c ∈ xs, Text.isDigitSign c = true) :
      xs.dropWhile isNumberBlank = xs := by
    cases xs with
    | nil => rfl
    | cons x xs =>
      refine List.dropWhile_cons_of_neg ?_
      rw [isNumberBlank, Text.isBlank_of_isDigitSign (all x List.mem_cons_self), Bool.false_and]
      exact Bool.false_ne_true
  rw [trimNumber, solid cs signs,
    solid cs.reverse fun c member => signs c (List.mem_reverse.mp member),
    List.reverse_reverse]

/-- What starts with a sign for a digit has no sign of its own. -/
lemma signed_of_isDigitSign (sign : Text.isDigitSign c = true) :
    signed (c :: cs) = (false, c :: cs) := by
  unfold signed
  split
  · rename_i same
    exact absurd (List.cons.inj same).1 (Text.ne_of_isDigitSign sign (by decide))
  · rename_i same
    exact absurd (List.cons.inj same).1 (Text.ne_of_isDigitSign sign (by decide))
  · rfl

/-- Digit signs bear no sign. -/
lemma signed_of_signs (signs : ∀ c ∈ cs, Text.isDigitSign c = true) : signed cs = (false, cs) := by
  cases cs with
  | nil => rfl
  | cons c cs => exact signed_of_isDigitSign (signs c List.mem_cons_self)

/-- Digit signs need no separator. -/
lemma separated_of_signs {afterDigit : Bool} (signs : ∀ c ∈ cs, Text.isDigitSign c = true) :
    separated afterDigit cs = (afterDigit || !cs.isEmpty) := by
  induction cs generalizing afterDigit with
  | nil => simp [separated]
  | cons c cs ih =>
    obtain ⟨first, others⟩ := List.forall_mem_cons.mp signs
    rw [separated, if_neg (Text.ne_of_isDigitSign first (by decide)), ih others]
    simp

/-- Digits are read as the number that they write, as long as they are no more than are read. -/
lemma readInteger_of_decimals (decimal : ∀ c ∈ cs, Text.isDecimal c = true) (some : cs ≠ [])
    (short : cs.length ≤ maxDigits) : readInteger (String.ofList cs) = .ok (digitsFrom 0 cs) := by
  have signs (c : Char) (member : c ∈ cs) := Text.isDigitSign_of_isDecimal (decimal c member)
  have whole : cs.takeWhile isDigitOrMark = cs :=
    List.takeWhile_eq_self_iff.mpr fun c member => by simp [isDigitOrMark, decimal c member]
  have apart : separated false cs = true := by
    rw [separated_of_signs signs]
    simpa using some
  unfold readInteger
  simp only [String.toList_ofList, trimNumber_of_signs signs, signed_of_signs signs, whole,
    List.filter_eq_self.mpr decimal, apart, Bool.not_true, Bool.false_eq_true, if_false,
    if_neg (Nat.not_lt.mpr short), lt_irrefl]

/-- Of the texts that consist of signs for digits, those are read that have digits only, and no more
than are read. -/
lemma exists_readInteger_iff (signs : ∀ c ∈ cs, Text.isDigitSign c = true) :
    (∃ n, readInteger (String.ofList cs) = .ok n) ↔
      cs ≠ [] ∧ (∀ c ∈ cs, Text.isDecimal c = true) ∧ cs.length ≤ maxDigits := by
  constructor
  · rintro ⟨n, read⟩
    unfold readInteger at read
    simp only [String.toList_ofList, trimNumber_of_signs signs, signed_of_signs signs,
      Bool.false_eq_true, if_false] at read
    split_ifs at read with apart long rest
    have whole : cs.takeWhile isDigitOrMark = cs :=
      (List.takeWhile_prefix isDigitOrMark).eq_of_length_le (Nat.le_of_not_lt rest)
    rw [whole] at apart long
    have decimal (c : Char) (member : c ∈ cs) : Text.isDecimal c = true := by
      have mark := List.takeWhile_eq_self_iff.mp whole c member
      rw [isDigitOrMark, Bool.or_eq_true, decide_eq_true_eq] at mark
      exact mark.resolve_right (Text.ne_of_isDigitSign (signs c member) (by decide))
    rw [List.filter_eq_self.mpr decimal] at long
    rw [separated_of_signs signs] at apart
    exact ⟨by simpa using apart, decimal, Nat.le_of_not_lt long⟩
  · rintro ⟨some, decimal, short⟩
    exact ⟨_, readInteger_of_decimals decimal some short⟩

/-- Digits are read in base ten. -/
lemma digitsFrom_of_digits {value : Nat} (digits : ∀ c ∈ cs, c.isDigit = true) :
    digitsFrom value cs = Nat.ofDigitChars 10 cs value := by
  induction cs generalizing value with
  | nil => rfl
  | cons c cs ih =>
    obtain ⟨first, others⟩ := List.forall_mem_cons.mp digits
    rw [digitsFrom, Text.digitValue?_of_isDigit first]
    simp only
    rw [ih others, Nat.ofDigitChars_cons, Nat.mul_comm]

end ChatTriage.Number

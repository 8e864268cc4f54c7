import ChatTriage.Proofs.Text.Casing
import ChatTriage.Proofs.Text.Words
import ChatTriage.Text.Digit

/-!
# Digits, blanks and signs

The ASCII digits are digits of all kinds, and a character that stands for a digit is neither a blank
nor one of the signs that stand around numbers. So trimming a text leaves its digits as they are.
-/

namespace ChatTriage

/-- Digits stand between 48 and 57. -/
lemma toNat_of_isDigit {c : Char} (digit : c.isDigit = true) : 48 ≤ c.toNat ∧ c.toNat ≤ 57 := by
  simpa [Char.isDigit, UInt32.le_iff_toNat_le] using digit

/-- What holds of each digit, one by one. -/
lemma isDigit_forall {P : Char → Prop}
    (all : ∀ n : Fin 128, (Char.ofNat n).isDigit = true → P (Char.ofNat n))
    {c : Char} (digit : c.isDigit = true) : P c := by
  have ascii : c.toNat < 128 := Nat.lt_of_le_of_lt (toNat_of_isDigit digit).2 (by decide)
  exact Text.ascii_forall (P := fun c => c.isDigit = true → P c) all ascii digit

namespace Text

variable {c : Char} {cs : List Char}

/-- A digit has its distance from zero for a value. -/
lemma digitValue?_of_isDigit (digit : c.isDigit = true) :
    digitValue? c = some (c.toNat - '0'.toNat) :=
  isDigit_forall (P := fun c => digitValue? c = some (c.toNat - '0'.toNat))
    (by decide +kernel) digit

/-- A digit is one in some script. -/
lemma isDecimal_of_isDigit (digit : c.isDigit = true) : isDecimal c = true := by
  rw [isDecimal, digitValue?_of_isDigit digit]
  rfl

/-- The code points of the blanks. -/
def blankPoints : List Nat :=
  List.range' 0x9 5 ++ List.range' 0x1c 5 ++ [0x85, 0xa0, 0x1680] ++ List.range' 0x2000 11 ++
    [0x2028, 0x2029, 0x202f, 0x205f, 0x3000]

/-- A blank is one of the listed ones. -/
lemma mem_blankPoints (blank : isBlank c = true) : c.toNat ∈ blankPoints := by
  simp only [isBlank, blankEdges, inRanges, beyondEdges, Bool.not_false, Bool.not_true] at blank
  simp only [blankPoints, List.mem_append, List.mem_range'_1, List.mem_cons,
    List.not_mem_nil, or_false]
  grind

/-- A blank is no digit sign. -/
lemma isDigitSign_eq_false (blank : isBlank c = true) : isDigitSign c = false := by
  have all : ∀ n ∈ blankPoints, isDigitSign (Char.ofNat n) = false := by decide +kernel
  rw [← Char.ofNat_toNat c]
  exact all c.toNat (mem_blankPoints blank)

/-- A digit sign is no blank. -/
lemma isBlank_of_isDigitSign (sign : isDigitSign c = true) : isBlank c = false := by
  rw [Bool.eq_false_iff]
  intro blank
  rw [isDigitSign_eq_false blank] at sign
  cases sign

/-- A digit sign is not another character. -/
lemma ne_of_isDigitSign {d : Char} (sign : isDigitSign c = true) (other : isDigitSign d = false) :
    c ≠ d := by
  rintro rfl
  rw [sign] at other
  cases other

/-- Blanks are no digits. -/
lemma filter_isDecimal_of_blank {gap : List Char} (blank : Blank gap) :
    gap.filter isDecimal = [] := by
  refine List.filter_eq_nil_iff.mpr fun c member decimal => ?_
  have solid := isBlank_of_isDigitSign (isDigitSign_of_isDecimal decimal)
  rw [blank c member] at solid
  cases solid

/-- Trimming takes no digit away. -/
lemma filter_isDecimal_trimChars : (trimChars cs).filter isDecimal = cs.filter isDecimal := by
  obtain ⟨left, blank, text⟩ := exists_append_trimLeft cs
  obtain ⟨right, blank', rest⟩ := exists_trimRight_append (trimLeft cs)
  calc (trimChars cs).filter isDecimal
      = (trimChars cs ++ right).filter isDecimal := by
        rw [List.filter_append, filter_isDecimal_of_blank blank', List.append_nil]
    _ = (trimLeft cs).filter isDecimal := congrArg (List.filter isDecimal) rest.symm
    _ = (left ++ trimLeft cs).filter isDecimal := by
        rw [List.filter_append, filter_isDecimal_of_blank blank, List.nil_append]
    _ = cs.filter isDecimal := congrArg (List.filter isDecimal) text.symm

end Text

end ChatTriage

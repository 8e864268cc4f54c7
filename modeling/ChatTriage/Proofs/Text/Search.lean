import Mathlib.Data.List.Infix
import ChatTriage.Text.Search

/-!
# Finding, replacing and cutting

A needle occurs in a text when the text can be cut around it. Where it is replaced, it is gone
unless the new text brings it back (`not_infix_of_replaced`), and so is everything else that was not
there before (`infix_of_replaced`). The pieces between separators are those of the library's
splitting.
-/

namespace ChatTriage.Text

variable {needle new text xs cs rs : List Char} {c : Char}

/-- A text occurs when it stands in the other. -/
lemma occurs_iff : occurs needle text = true ↔ needle <:+: text := by
  induction text with
  | nil => rw [occurs, List.isEmpty_iff, List.infix_nil]
  | cons c rest ih =>
      rw [occurs, Bool.or_eq_true, ih, List.isPrefixOf_iff_prefix, List.infix_cons_iff]

/-- A text is contained when it stands in the other. -/
lemma contains_iff {s t : String} : contains s t = true ↔ t.toList <:+: s.toList :=
  occurs_iff

/-- In a text with one character more, a needle stands at the start or after that character. -/
lemma infix_cons_iff_of_length (same : needle.length = text.length) :
    needle <:+: c :: text ↔ needle = text ∨ needle <+: c :: text := by
  rw [List.infix_cons_iff, or_comm]
  refine or_congr_left ⟨fun inside => inside.eq_of_length same, ?_⟩
  rintro rfl
  exact List.infix_rfl

/-! ### Replacing -/

/-- What a text becomes when a needle is replaced wherever it stands, from the left and without
overlap. -/
inductive Replaced (needle new : List Char) : List Char → List Char → Prop where
  | nil :
    Replaced needle new [] []
  | keep {c : Char} {cs rs : List Char} :
    ¬ needle <+: c :: cs →
    Replaced needle new cs rs →
    Replaced needle new (c :: cs) (c :: rs)
  | swap {cs rs : List Char} :
    Replaced needle new cs rs →
    Replaced needle new (needle ++ cs) (new ++ rs)

/-- What is still to be dropped belongs to the needle that was replaced last. -/
lemma replaced_replaceFrom (some : needle ≠ []) (skip : Nat) (cs : List Char) :
    Replaced needle new (cs.drop skip) (replaceFrom needle new skip cs) := by
  induction cs generalizing skip with
  | nil =>
    rw [List.drop_nil]
    exact .nil
  | cons c rest ih =>
    cases skip with
    | succ skip => exact ih skip
    | zero =>
      rw [List.drop_zero, replaceFrom]
      simp only [List.isPrefixOf_iff_prefix]
      split
      · rename_i first
        obtain ⟨later, whole⟩ := first
        cases needle with
        | nil => exact absurd rfl some
        | cons d needle =>
          rw [List.cons_append, List.cons.injEq] at whole
          obtain ⟨rfl, rfl⟩ := whole
          have done := ih needle.length
          rw [List.drop_left] at done
          exact .swap done
      · rename_i absent
        exact .keep absent (ih 0)

/-- All occurrences are replaced. -/
lemma replaced_replaceAll {text needle new : String} (some : needle ≠ "") :
    Replaced needle.toList new.toList text.toList (replaceAll text needle new).toList := by
  have filled : needle.toList ≠ [] := fun none => some (String.toList_eq_nil_iff.mp none)
  rw [replaceAll, if_neg (by simpa using some), String.toList_ofList]
  exact replaced_replaceFrom filled 0 text.toList

/-- What has no character of the needle in it is kept. -/
lemma exists_of_replaced_append (some : needle ≠ []) (apart : ∀ c ∈ xs, c ∉ needle)
    (done : Replaced needle new (xs ++ cs) rs) :
    ∃ rest, rs = xs ++ rest ∧ Replaced needle new cs rest := by
  induction xs generalizing rs with
  | nil => exact ⟨rs, rfl, done⟩
  | cons x xs ih =>
    obtain ⟨sign, signs⟩ := List.forall_mem_cons.mp apart
    generalize whole : x :: xs ++ cs = text at done
    cases done with
    | nil => cases whole
    | keep _ later =>
      cases whole
      obtain ⟨rest, rfl, done⟩ := ih signs later
      exact ⟨rest, rfl, done⟩
    | swap _ =>
      cases needle with
      | nil => exact absurd rfl some
      | cons n needle =>
        obtain ⟨rfl, -⟩ := List.cons.inj whole
        exact absurd List.mem_cons_self sign

/-- What has no character of the new text in it does not begin in the new text. -/
lemma infix_of_infix_append (apart : ∀ c ∈ new, c ∉ xs) (found : xs <:+: new ++ rs) :
    xs = [] ∨ xs <:+: rs := by
  induction new with
  | nil => exact .inr found
  | cons n new ih =>
    obtain ⟨sign, signs⟩ := List.forall_mem_cons.mp apart
    rw [List.cons_append, List.infix_cons_iff] at found
    obtain first | later := found
    · cases xs with
      | nil => exact .inl rfl
      | cons x xs =>
        rw [List.cons_prefix_cons] at first
        exact absurd (first.1 ▸ List.mem_cons_self) sign
    · exact ih signs later

/-- What the result begins with, and has no character of the new text in it, is what the text began
with. -/
lemma prefix_of_replaced (filled : new ≠ []) (apart : ∀ c ∈ new, c ∉ xs)
    (done : Replaced needle new cs rs)
    (first : xs <+: rs) : xs <+: cs := by
  induction done generalizing xs with
  | nil => exact first
  | keep _ _ ih =>
    cases xs with
    | nil => exact List.nil_prefix
    | cons x xs =>
      obtain ⟨rfl, rest⟩ := List.cons_prefix_cons.mp first
      have apart' (c : Char) (member : c ∈ new) : c ∉ xs := fun later =>
        apart c member (List.mem_cons_of_mem x later)
      exact List.cons_prefix_cons.mpr ⟨rfl, ih apart' rest⟩
  | swap _ _ =>
    cases xs with
    | nil => exact List.nil_prefix
    | cons x xs =>
      cases new with
      | nil => exact absurd rfl filled
      | cons n new =>
        obtain ⟨rfl, -⟩ := List.cons_prefix_cons.mp first
        exact absurd List.mem_cons_self (apart x List.mem_cons_self)

/-- What stands in the result, and has no character of the new text in it, stood in the text
before. -/
lemma infix_of_replaced (filled : new ≠ []) (apart : ∀ c ∈ new, c ∉ xs)
    (done : Replaced needle new cs rs)
    (found : xs <:+: rs) : xs <:+: cs := by
  induction done with
  | nil => exact found
  | keep absent rest ih =>
    obtain first | later := List.infix_cons_iff.mp found
    · exact (prefix_of_replaced filled apart (.keep absent rest) first).isInfix
    · exact List.infix_cons (ih later)
  | @swap cs rs _ ih =>
    obtain rfl | later := infix_of_infix_append apart found
    · exact List.nil_infix
    · exact (ih later).trans (List.suffix_append needle cs).isInfix

/-- A needle is gone where it was replaced by a text without any of its characters: one that begins
in what was kept would have been replaced. -/
lemma not_infix_of_replaced (some : needle ≠ []) (filled : new ≠ []) (apart : ∀ c ∈ new, c ∉ needle)
    (done : Replaced needle new cs rs) : ¬ needle <:+: rs := by
  induction done with
  | nil => exact fun found => some (List.infix_nil.mp found)
  | keep absent rest ih =>
    intro found
    obtain first | later := List.infix_cons_iff.mp found
    · exact absent (prefix_of_replaced filled apart (.keep absent rest) first)
    · exact ih later
  | swap _ ih =>
    intro found
    obtain none | later := infix_of_infix_append apart found
    · exact some none
    · exact ih later

/-! ### Cutting -/

/-- The piece being read is put before the first piece of the rest. -/
lemma cutFrom_eq {sep : Char} {piece : List Char} :
    cutFrom sep piece cs = cs.splitOnPPrepend (· == sep) piece := by
  induction cs generalizing piece with
  | nil => rfl
  | cons c rest ih =>
    rw [cutFrom, ih, ih, List.splitOnPPrepend_cons_eq_if, List.splitOnP_eq_splitOnPPrepend]
    simp only [beq_iff_eq]

/-- A text is cut at every separator. -/
lemma cut_eq {sep : Char} {text : String} :
    cut sep text = (text.toList.splitOn sep).map String.ofList := by
  rw [cut, cutFrom_eq, List.splitOn_eq_splitOnP, List.splitOnP_eq_splitOnPPrepend]

end ChatTriage.Text

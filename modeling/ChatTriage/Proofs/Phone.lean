import Mathlib.Data.List.Basic
import ChatTriage.Phone

/-!
# Numbers on a list

A number is on the list of some numbers when it has digits and one of them has the same
(`AllowList.allows_of_iff`). A list keeps each entry once, and a list without repetitions stays as
it is.
-/

namespace ChatTriage.Phone

variable {α : Type} [BEq α] [LawfulBEq α] {xs : List α} {x : α}

/-- What the entries are put after is kept, and each of them is found afterwards. -/
lemma mem_foldl_distinct {seen : List α} :
    x ∈ xs.foldl (fun seen x => if seen.contains x then seen else seen ++ [x]) seen ↔
      x ∈ seen ∨ x ∈ xs := by
  induction xs generalizing seen with
  | nil => simp
  | cons y xs ih =>
    rw [List.foldl_cons, ih, List.mem_cons]
    by_cases known : y ∈ seen
    · rw [if_pos (List.contains_iff_mem.mpr known)]
      constructor
      · rintro (old | later)
        · exact .inl old
        · exact .inr (.inr later)
      · rintro (old | rfl | later)
        · exact .inl old
        · exact .inl known
        · exact .inr later
    · rw [if_neg fun there => known (List.contains_iff_mem.mp there), List.mem_append,
        List.mem_singleton, or_assoc]

/-- No member is lost. -/
lemma mem_distinct : x ∈ distinct xs ↔ x ∈ xs := by
  unfold distinct
  rw [mem_foldl_distinct]
  simp

/-- Each entry is put after those that were there before it. -/
lemma foldl_distinct_eq {seen : List α} (once : (seen ++ xs).Nodup) :
    xs.foldl (fun seen x => if seen.contains x then seen else seen ++ [x]) seen = seen ++ xs := by
  induction xs generalizing seen with
  | nil => exact (List.append_nil seen).symm
  | cons y xs ih =>
    have new : y ∉ seen := fun old => (List.nodup_append.mp once).2.2 y old y List.mem_cons_self rfl
    rw [List.foldl_cons, if_neg fun there => new (List.contains_iff_mem.mp there), ih]
    · rw [List.append_assoc, List.singleton_append]
    · rwa [List.append_assoc, List.singleton_append]

/-- A list without repetitions stays as it is. -/
lemma distinct_eq (once : xs.Nodup) : distinct xs = xs :=
  foldl_distinct_eq (by rwa [List.nil_append])

/-- A member is kept once. -/
lemma nodup_foldl_distinct {seen : List α} (once : seen.Nodup) :
    (xs.foldl (fun seen x => if seen.contains x then seen else seen ++ [x]) seen).Nodup := by
  induction xs generalizing seen with
  | nil => exact once
  | cons y xs ih =>
    rw [List.foldl_cons]
    by_cases known : y ∈ seen
    · rw [if_pos (List.contains_iff_mem.mpr known)]
      exact ih once
    · rw [if_neg fun there => known (List.contains_iff_mem.mp there)]
      refine ih (List.nodup_append.mpr ⟨once, List.pairwise_singleton _ y, ?_⟩)
      rintro a old b last rfl
      exact known (List.mem_singleton.mp last ▸ old)

/-- So all members are distinct. -/
lemma nodup_distinct : (distinct xs).Nodup :=
  nodup_foldl_distinct List.nodup_nil

/-- Digits are taken part by part. -/
lemma digitsOf_append (s t : String) : digitsOf (s ++ t) = digitsOf s ++ digitsOf t := by
  unfold digitsOf
  rw [String.toList_append, List.filter_append, String.ofList_append]

/-- Digits are digits. -/
lemma digitsOf_digitsOf (s : String) : digitsOf (digitsOf s) = digitsOf s := by
  unfold digitsOf
  rw [String.toList_ofList, List.filter_filter]
  simp only [Bool.and_self]

/-- A number is on the list made from some numbers when it has digits and one of them has the
same. -/
lemma AllowList.allows_of_iff {numbers : List Json} {number : Json} :
    (AllowList.of numbers).allows number = true ↔
      digits number ≠ "" ∧ ∃ n ∈ numbers, digits n = digits number := by
  unfold allows of
  simp only [Bool.and_eq_true, Bool.not_eq_true', String.isEmpty_eq_false_iff,
    List.contains_iff_mem, mem_distinct, List.mem_filter, List.mem_map]
  constructor
  · rintro ⟨some, same, -⟩
    exact ⟨some, same⟩
  · rintro ⟨some, same⟩
    exact ⟨some, same, some⟩

end ChatTriage.Phone

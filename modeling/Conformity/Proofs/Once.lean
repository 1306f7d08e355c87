import Mathlib.Data.List.Induction
import Mathlib.Data.List.Nodup

/-!
# Lists with each member once

`List.eraseDups` keeps the first occurrence of each member. What comes first in a list that is put
together from parts can be found part by part (`eraseDups_eraseDups_append`,
`eraseDups_append_eraseDups`).
-/

namespace Conformity

variable {α : Type} [BEq α] [LawfulBEq α] {xs ys : List α} {x : α}

theorem eraseDups_concat_of_mem (h : x ∈ xs) : (xs ++ [x]).eraseDups = xs.eraseDups := by
  simp [List.eraseDups_append, List.removeAll, h]

theorem eraseDups_concat_of_not_mem (h : x ∉ xs) :
    (xs ++ [x]).eraseDups = xs.eraseDups ++ [x] := by
  simp [List.eraseDups_append, List.removeAll, h, List.eraseDups_cons]

theorem nodup_eraseDups (xs : List α) : xs.eraseDups.Nodup := by
  induction xs using List.reverseRecOn with
  | nil => simp
  | append_singleton xs x ih =>
      by_cases h : x ∈ xs
      · rwa [eraseDups_concat_of_mem h]
      · rw [eraseDups_concat_of_not_mem h, ← List.concat_eq_append]
        exact ih.concat (by simpa using h)

theorem eraseDups_sublist (xs : List α) : xs.eraseDups.Sublist xs := by
  induction xs using List.reverseRecOn with
  | nil => simp
  | append_singleton xs x ih =>
      by_cases h : x ∈ xs
      · rw [eraseDups_concat_of_mem h]
        exact ih.trans (List.sublist_append_left xs [x])
      · rw [eraseDups_concat_of_not_mem h]
        exact ih.append_right [x]

theorem eraseDups_of_nodup (h : xs.Nodup) : xs.eraseDups = xs := by
  induction xs using List.reverseRecOn with
  | nil => rfl
  | append_singleton xs x ih =>
      rw [List.nodup_append] at h
      have hx : x ∉ xs := fun hmem => h.2.2 x hmem x (by simp) rfl
      rw [eraseDups_concat_of_not_mem hx, ih h.1]

/-- Members that are there already change nothing. -/
theorem eraseDups_append_of_subset (h : ys ⊆ xs) : (xs ++ ys).eraseDups = xs.eraseDups := by
  induction ys using List.reverseRecOn with
  | nil => rw [List.append_nil]
  | append_singleton ys y ih =>
      have hy : y ∈ xs ++ ys := List.mem_append_left ys (h (by simp))
      rw [← List.append_assoc, eraseDups_concat_of_mem hy]
      exact ih (List.append_subset.mp h).1

theorem subset_eraseDups_append (xs ys : List α) : ys ⊆ (xs ++ ys).eraseDups := fun y hy => by
  simp [hy]

theorem eraseDups_eraseDups_append (xs ys : List α) :
    (xs.eraseDups ++ ys).eraseDups = (xs ++ ys).eraseDups := by
  induction ys using List.reverseRecOn with
  | nil => simpa using eraseDups_of_nodup (nodup_eraseDups xs)
  | append_singleton ys y ih =>
      rw [← List.append_assoc, ← List.append_assoc]
      by_cases hy : y ∈ xs ++ ys
      · have hy' : y ∈ xs.eraseDups ++ ys := by simpa using hy
        rw [eraseDups_concat_of_mem hy, eraseDups_concat_of_mem hy', ih]
      · have hy' : y ∉ xs.eraseDups ++ ys := by simpa using hy
        rw [eraseDups_concat_of_not_mem hy, eraseDups_concat_of_not_mem hy', ih]

theorem eraseDups_append_eraseDups (xs ys : List α) :
    (xs ++ ys.eraseDups).eraseDups = (xs ++ ys).eraseDups := by
  induction ys using List.reverseRecOn with
  | nil => rfl
  | append_singleton ys y ih =>
      by_cases hy : y ∈ ys
      · rw [eraseDups_concat_of_mem hy, ih, ← List.append_assoc,
          eraseDups_concat_of_mem (List.mem_append_right xs hy)]
      · rw [eraseDups_concat_of_not_mem hy, ← List.append_assoc, ← List.append_assoc]
        by_cases hx : y ∈ xs
        · rw [eraseDups_concat_of_mem (List.mem_append_left _ hx),
            eraseDups_concat_of_mem (List.mem_append_left _ hx), ih]
        · have hboth : y ∉ xs ++ ys := by simp [hx, hy]
          have hboth' : y ∉ xs ++ ys.eraseDups := by simp [hx, hy]
          rw [eraseDups_concat_of_not_mem hboth, eraseDups_concat_of_not_mem hboth', ih]

end Conformity

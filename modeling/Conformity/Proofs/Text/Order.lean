import Conformity.Proofs.Once
import Conformity.Text.Order

/-!
# Sorted texts

Two lists of texts are sorted into one list exactly if they have the same texts equally often, and
into one set exactly if they have the same texts (`sortedSet_eq_sortedSet_iff`). A list is its own set
exactly if it is in order, each text once (`sortedSet_eq_self_iff`).
-/

namespace Conformity.Text

theorem sorted_perm (xs : List String) : (sorted xs).Perm xs := List.mergeSort_perm _ _

theorem pairwise_sorted (xs : List String) : (sorted xs).Pairwise (· ≤ ·) := by
  have trans : ∀ a b c : String, decide (a ≤ b) = true → decide (b ≤ c) = true →
      decide (a ≤ c) = true := by
    intro a b c hab hbc
    exact decide_eq_true (String.le_trans (of_decide_eq_true hab) (of_decide_eq_true hbc))
  have total : ∀ a b : String, (decide (a ≤ b) || decide (b ≤ a)) = true := by
    intro a b
    rw [Bool.or_eq_true, decide_eq_true_iff, decide_eq_true_iff]
    exact String.le_total a b
  exact (List.pairwise_mergeSort trans total xs).imp of_decide_eq_true

/-- Sorting forgets the order of a list, and nothing else. -/
theorem sorted_eq_sorted_iff {xs ys : List String} : sorted xs = sorted ys ↔ xs.Perm ys := by
  constructor
  · intro h
    exact (sorted_perm xs).symm.trans (h ▸ sorted_perm ys)
  · intro h
    have hperm : (sorted xs).Perm (sorted ys) :=
      (sorted_perm xs).trans (h.trans (sorted_perm ys).symm)
    exact hperm.eq_of_pairwise (fun _ _ _ _ => String.le_antisymm) (pairwise_sorted xs)
      (pairwise_sorted ys)

@[simp] theorem mem_sorted {s : String} {xs : List String} : s ∈ sorted xs ↔ s ∈ xs :=
  (sorted_perm xs).mem_iff

@[simp] theorem mem_sortedSet {s : String} {xs : List String} : s ∈ sortedSet xs ↔ s ∈ xs := by
  rw [sortedSet, List.mem_eraseDups, mem_sorted]

/-! ## Sets -/

theorem lt_of_le_of_ne {s t : String} (hle : s ≤ t) (hne : s ≠ t) : s < t := by
  refine Decidable.byContradiction fun hlt => ?_
  exact hne (String.le_antisymm hle hlt)

/-- Without repetitions, a list in order is strictly in order. -/
theorem pairwise_eraseDups {xs : List String} (h : xs.Pairwise (· ≤ ·)) :
    xs.eraseDups.Pairwise (· < ·) := by
  have hle : xs.eraseDups.Pairwise (· ≤ ·) := h.sublist (eraseDups_sublist xs)
  exact (hle.and (nodup_eraseDups xs)).imp fun h => lt_of_le_of_ne h.1 h.2

theorem pairwise_sortedSet (xs : List String) : (sortedSet xs).Pairwise (· < ·) :=
  pairwise_eraseDups (pairwise_sorted xs)

/-- Sorting into a set forgets the order of a list and how often its texts are there, and nothing
else. -/
theorem sortedSet_eq_sortedSet_iff {xs ys : List String} :
    sortedSet xs = sortedSet ys ↔ ∀ s, s ∈ xs ↔ s ∈ ys := by
  constructor
  · intro h s
    rw [← mem_sortedSet, h, mem_sortedSet]
  · intro h
    have hperm : (sortedSet xs).Perm (sortedSet ys) :=
      (List.perm_ext_iff_of_nodup (nodup_eraseDups _) (nodup_eraseDups _)).mpr fun s => by simp [h s]
    exact hperm.eq_of_pairwise (fun _ _ _ _ hlt hgt => absurd hgt (String.lt_asymm hlt))
      (pairwise_sortedSet xs) (pairwise_sortedSet ys)

/-- A list is its own set exactly if it is in order, each text once. -/
theorem sortedSet_eq_self_iff {xs : List String} : sortedSet xs = xs ↔ xs.Pairwise (· < ·) := by
  constructor
  · intro h
    exact h ▸ pairwise_sortedSet xs
  · intro h
    have hle : xs.Pairwise fun x y => decide (x ≤ y) = true :=
      h.imp fun hlt => decide_eq_true (String.lt_asymm hlt)
    have hnodup : xs.Nodup := by
      refine h.imp ?_
      rintro s _ hlt rfl
      exact String.lt_irrefl s hlt
    rw [sortedSet, sorted, List.mergeSort_of_pairwise hle, eraseDups_of_nodup hnodup]

end Conformity.Text

import Conformity.Impact.Similar
import Conformity.Proofs.Text.Distance
import Conformity.Proofs.Text.Order

/-!
# Likely successors

The candidates for a removed identifier are tried in alphabetical order, and one takes the place of the
best so far only if it is nearer. So the search finds the nearest candidate within the bound, and the
first one of several that are as near (`Impact.similarId_eq_some_iff`). What it finds does not depend on
the order in which the candidates are given or on how often (`Impact.similarId_congr`), and one more
candidate can only put itself in the place of what was found (`Impact.similarId_cons`).
-/

namespace Conformity.Impact

variable {t : Tolerance} {id s c : String} {candidates others seen : List String}
  {best : Option (String × Nat)}

/-- A candidate is the likely successor of an identifier: it is within the bound, none is nearer, and
none of those that are as near comes before it in the alphabet. -/
structure IsSuccessor (t : Tolerance) (id : String) (candidates : List String) (s : String) :
    Prop where
  mem : s ∈ candidates
  bounded : idDistance id s ≤ max t.minDistance (id.length / t.lengthDivisor)
  nearest : ∀ c ∈ candidates, idDistance id s ≤ idDistance id c
  first : ∀ c ∈ candidates, idDistance id c = idDistance id s → s ≤ c

/-- All candidates are too far from an identifier to be its successor. -/
def AllFar (t : Tolerance) (id : String) (candidates : List String) : Prop :=
  ∀ c ∈ candidates, max t.minDistance (id.length / t.lengthDivisor) < idDistance id c

theorem IsSuccessor.unique {s' : String} (h : IsSuccessor t id candidates s)
    (h' : IsSuccessor t id candidates s') : s = s' := by
  have heq : idDistance id s = idDistance id s' :=
    Nat.le_antisymm (h.nearest s' h'.mem) (h'.nearest s h.mem)
  apply String.le_antisymm
  · exact h.first s' h'.mem heq.symm
  · exact h'.first s h.mem heq

theorem IsSuccessor.congr (h : IsSuccessor t id candidates s)
    (hsame : ∀ c, c ∈ candidates ↔ c ∈ others) : IsSuccessor t id others s where
  mem := (hsame s).mp h.mem
  bounded := h.bounded
  nearest := fun c hc => h.nearest c ((hsame c).mpr hc)
  first := fun c hc => h.first c ((hsame c).mpr hc)

theorem IsSuccessor.not_allFar (h : IsSuccessor t id candidates s) : ¬ AllFar t id candidates := by
  intro hfar
  exact Nat.not_lt.mpr h.bounded (hfar s h.mem)

/-! ## The search -/

/-- What the search holds after some candidates: nothing if they are all too far, and the successor
among them with its distance otherwise. -/
inductive Holds (t : Tolerance) (id : String) (seen : List String) : Option (String × Nat) → Prop
  | nothing : AllFar t id seen → Holds t id seen none
  | found {s : String} : IsSuccessor t id seen s → Holds t id seen (some (s, idDistance id s))

/-- A candidate that is nearer than all those before it takes their place. -/
theorem IsSuccessor.of_nearer (hbound : idDistance id c ≤ t.bound id)
    (h : ∀ s ∈ seen, idDistance id c < idDistance id s) : IsSuccessor t id (seen ++ [c]) c where
  mem := by simp
  bounded := hbound
  nearest := by
    intro s hs
    rcases List.mem_append.mp hs with hs | hs
    · exact Nat.le_of_lt (h s hs)
    · obtain rfl := List.mem_singleton.mp hs
      exact Nat.le_refl _
  first := by
    intro s hs heq
    rcases List.mem_append.mp hs with hs | hs
    · exact absurd heq.symm (Nat.ne_of_lt (h s hs))
    · obtain rfl := List.mem_singleton.mp hs
      exact String.le_refl _

/-- A later candidate that is not nearer changes nothing. -/
theorem IsSuccessor.append (h : IsSuccessor t id seen s) (hnot : ¬ idDistance id c < idDistance id s)
    (hlast : s ≤ c) : IsSuccessor t id (seen ++ [c]) s where
  mem := List.mem_append_left [c] h.mem
  bounded := h.bounded
  nearest := by
    intro d hd
    rcases List.mem_append.mp hd with hd | hd
    · exact h.nearest d hd
    · rw [List.mem_singleton.mp hd]
      exact Nat.not_lt.mp hnot
  first := by
    intro d hd heq
    rcases List.mem_append.mp hd with hd | hd
    · exact h.first d hd heq
    · rwa [List.mem_singleton.mp hd]

/-- One more candidate, which comes behind the others in the alphabet. -/
theorem Holds.step (h : Holds t id seen best) (hlast : ∀ s ∈ seen, s ≤ c) :
    Holds t id (seen ++ [c]) (nearer id (t.bound id) best c) := by
  unfold nearer
  cases h with
  | nothing hfar =>
      by_cases hbound : idDistance id c ≤ t.bound id
      · have hnearer : ∀ s ∈ seen, idDistance id c < idDistance id s := by
          intro s hs
          exact Nat.lt_of_le_of_lt hbound (hfar s hs)
        simpa [hbound] using Holds.found (IsSuccessor.of_nearer hbound hnearer)
      · have hnone : AllFar t id (seen ++ [c]) := by
          intro s hs
          rcases List.mem_append.mp hs with hs | hs
          · exact hfar s hs
          · rw [List.mem_singleton.mp hs]
            exact Nat.not_le.mp hbound
        simpa [hbound] using Holds.nothing hnone
  | @found s hs =>
      by_cases hlt : idDistance id c < idDistance id s
      · -- what is nearer than the best so far is within the bound, too
        have hbound : idDistance id c ≤ t.bound id := Nat.le_trans (Nat.le_of_lt hlt) hs.bounded
        have hnearer : ∀ d ∈ seen, idDistance id c < idDistance id d := by
          intro d hd
          exact Nat.lt_of_lt_of_le hlt (hs.nearest d hd)
        simpa [hbound, hlt] using Holds.found (IsSuccessor.of_nearer hbound hnearer)
      · simpa [hlt] using Holds.found (hs.append hlt (hlast s hs.mem))

/-- All candidates of a list in alphabetical order, those seen first. -/
theorem Holds.foldl (cs : List String) (h : Holds t id seen best)
    (hsorted : (seen ++ cs).Pairwise (· ≤ ·)) :
    Holds t id (seen ++ cs) (cs.foldl (nearer id (t.bound id)) best) := by
  induction cs generalizing seen best with
  | nil => simpa using h
  | cons c cs ih =>
      have hlast : ∀ s ∈ seen, s ≤ c := by
        intro s hs
        exact (List.pairwise_append.mp hsorted).2.2 s hs c List.mem_cons_self
      rw [List.append_cons] at hsorted ⊢
      rw [List.foldl_cons]
      exact ih (h.step hlast) hsorted

/-- What the search holds in the end is what it finds. -/
theorem exists_holds (t : Tolerance) (id : String) (candidates : List String) :
    ∃ best, Holds t id (Text.sorted candidates) best ∧
      similarId t id candidates = best.map (·.1) := by
  have hstart : Holds t id [] none := .nothing (by simp [AllFar])
  refine ⟨_, ?_, rfl⟩
  simpa using hstart.foldl (Text.sorted candidates) (by simpa using Text.pairwise_sorted candidates)

/-! ## The successor -/

theorem similarId_eq_some_iff :
    similarId t id candidates = some s ↔ IsSuccessor t id candidates s := by
  have hsame : ∀ c, c ∈ Text.sorted candidates ↔ c ∈ candidates := fun c => Text.mem_sorted
  obtain ⟨best, hholds, heq⟩ := exists_holds t id candidates
  rw [heq]
  cases hholds with
  | nothing hfar =>
      refine iff_of_false (by simp) fun h => ?_
      exact (h.congr fun c => (hsame c).symm).not_allFar hfar
  | found hfound =>
      constructor
      · rintro ⟨⟩
        exact hfound.congr hsame
      · intro h
        rw [(hfound.congr hsame).unique h]
        rfl

theorem similarId_eq_none_iff : similarId t id candidates = none ↔ AllFar t id candidates := by
  have hfar : AllFar t id (Text.sorted candidates) ↔ AllFar t id candidates := by simp [AllFar]
  obtain ⟨best, hholds, heq⟩ := exists_holds t id candidates
  rw [heq]
  cases hholds with
  | nothing h => simpa using hfar.mp h
  | found h => simpa using fun hall => h.not_allFar (hfar.mpr hall)

/-- Nothing counts but which candidates there are. -/
theorem similarId_congr (hsame : ∀ c, c ∈ candidates ↔ c ∈ others) :
    similarId t id candidates = similarId t id others := by
  cases hs : similarId t id others with
  | none => simpa [similarId_eq_none_iff, AllFar, hsame] using hs
  | some s =>
      rw [similarId_eq_some_iff] at hs ⊢
      exact hs.congr fun c => (hsame c).symm

/-- One more candidate is the successor, or changes nothing. -/
theorem similarId_cons (t : Tolerance) (id c : String) (candidates : List String) :
    similarId t id (c :: candidates) = similarId t id candidates ∨
      similarId t id (c :: candidates) = some c := by
  cases hs : similarId t id (c :: candidates) with
  | none =>
      rw [similarId_eq_none_iff] at hs
      exact .inl (similarId_eq_none_iff.mpr fun d hd => hs d (List.mem_cons_of_mem c hd)).symm
  | some s =>
      have hfound := similarId_eq_some_iff.mp hs
      rcases List.mem_cons.mp hfound.mem with rfl | hmem
      · exact .inr rfl
      · -- the successor is one of the others, and so it is the successor among them
        refine .inl (similarId_eq_some_iff.mpr ⟨hmem, hfound.bounded, ?_, ?_⟩).symm
        · exact fun d hd => hfound.nearest d (List.mem_cons_of_mem c hd)
        · exact fun d hd => hfound.first d (List.mem_cons_of_mem c hd)

theorem isLeast_idDistance (id c : String) :
    IsLeast {n | Text.Edits n (Text.lower id).toList (Text.lower c).toList} (idDistance id c) := by
  rw [idDistance, Text.distance_eq_editDistance]
  exact Text.isLeast_editDistance _ _

/-- The successor of an identifier is the nearest candidate, by the least number of edits with capitals
made small, the alphabetically first one of several; there is none exactly if all candidates are too
far. It depends on the set of candidates alone, and one more candidate can only put itself in its
place. -/
theorem similarId_exact (t : Tolerance) (id : String) :
    (∀ candidates, similarId t id candidates = none ↔
      ∀ c ∈ candidates, max t.minDistance (id.length / t.lengthDivisor) < idDistance id c) ∧
    (∀ candidates s, similarId t id candidates = some s ↔ IsSuccessor t id candidates s) ∧
    (∀ candidates others, (∀ c, c ∈ candidates ↔ c ∈ others) →
      similarId t id candidates = similarId t id others) ∧
    (∀ candidates c, similarId t id (c :: candidates) = similarId t id candidates ∨
      similarId t id (c :: candidates) = some c) ∧
    ∀ c, IsLeast {n | Text.Edits n (Text.lower id).toList (Text.lower c).toList}
      (idDistance id c) :=
  ⟨fun _ => similarId_eq_none_iff, fun _ _ => similarId_eq_some_iff,
    fun _ _ => similarId_congr, fun candidates c => similarId_cons t id c candidates,
    isLeast_idDistance id⟩

/-- Capitals do not count, of two candidates that are as near the first one is taken, and their order
and repetition make no difference. -/
theorem similarId_exact_of_rule :
    similarId {} "BR-CO-10" ["br-co-11", "BR-S-08", "BR-CO-1O"] = some "BR-CO-1O" ∧
      similarId {} "BR-CO-10" ["BR-CO-1O", "br-co-11", "BR-S-08", "br-co-11"] = some "BR-CO-1O" ∧
      similarId {} "BR-CO-10" ["UBL-SR-19", "PEPPOL-R001"] = none := by
  obtain ⟨hnone, hsome, hsame, -⟩ := similarId_exact {} "BR-CO-10"
  have hfirst : similarId {} "BR-CO-10" ["br-co-11", "BR-S-08", "BR-CO-1O"] = some "BR-CO-1O" :=
    (hsome _ _).mpr ⟨by decide, by decide +kernel, by decide +kernel, by decide +kernel⟩
  refine ⟨hfirst, ?_, (hnone _).mpr (by decide +kernel)⟩
  rw [← hfirst]
  apply hsame
  intro c
  simp only [List.mem_cons, List.not_mem_nil, or_false]
  grind

end Conformity.Impact

import Conformity.Proofs.Text.Trim
import Conformity.Text.Comment
import Mathlib.Data.Nat.Log
import Mathlib.Logic.Function.Iterate
import Mathlib.Tactic.Ring

/-!
# Runs of hyphens

One pass over a text replaces pairs of hyphens by single ones (`pairsReplaced`). It halves every run:
`k + 1` hyphens in a row are left where there were `2 * k + 1` (`run_infix_pairsReplaced_iff`). The
passes that `singleHyphens` makes come to an end (`exists_endsAfter`), and how many there are depends on
the longest run alone (`endsAfter_iff`).

What a text collapses to has one hyphen for each run, taken as long as it is (`Collapses`). A pass does
not change what a text collapses to (`collapses_pairsReplaced_iff`), and a text without pairs is what it
collapses to (`collapses_iff_eq`); so the passes end in just that (`collapses_iff`).
-/

namespace Conformity

variable {c : Char} {cs ds es : List Char} {k n : Nat}

/-- A pair of hyphens is at the front or further on. -/
theorem pair_infix_cons_iff :
    "--".toList <:+: c :: cs ↔ (c = '-' ∧ cs.head? = some '-') ∨ "--".toList <:+: cs := by
  rw [List.infix_cons_iff]
  refine or_congr_left ?_
  cases cs with
  | nil => simp
  | cons d cs => simp [eq_comm]

/-! ## One pass over pairs -/

/-- A text with pairs of hyphens replaced by single ones, from left to right. -/
def pairsReplaced (cs : List Char) : List Char := Text.replace "--".toList "-".toList cs

@[simp] theorem pairsReplaced_nil : pairsReplaced [] = [] := rfl

theorem pairsReplaced_pair (cs : List Char) :
    pairsReplaced ('-' :: '-' :: cs) = '-' :: pairsReplaced cs := rfl

theorem pairsReplaced_cons (h : ¬ (c = '-' ∧ cs.head? = some '-')) :
    pairsReplaced (c :: cs) = c :: pairsReplaced cs := by
  have hstart : Text.startsWith "--".toList (c :: cs) = false := by
    rw [Bool.eq_false_iff, ne_eq, Text.startsWith_iff]
    rintro ⟨ds, hds⟩
    cases hds
    exact h ⟨rfl, rfl⟩
  show Text.replaceFrom _ _ 0 (c :: cs) = _
  rw [Text.replaceFrom, hstart]
  rfl

/-- Texts are taken apart where the replacement does so: behind a pair, or behind one character. -/
theorem pairs_induction {motive : List Char → Prop} (nil : motive [])
    (pair : ∀ cs, motive cs → motive ('-' :: '-' :: cs))
    (single : ∀ c cs, ¬ (c = '-' ∧ cs.head? = some '-') → motive cs → motive (c :: cs))
    (cs : List Char) : motive cs := by
  induction hlength : cs.length using Nat.strongRecOn generalizing cs with
  | _ n ih =>
      cases cs with
      | nil => exact nil
      | cons c cs =>
          by_cases h : c = '-' ∧ cs.head? = some '-'
          · obtain ⟨rfl, hd⟩ := h
            obtain ⟨ds, rfl⟩ := List.head?_eq_some_iff.mp hd
            exact pair ds (ih ds.length (by simp at hlength; omega) ds rfl)
          · exact single c cs h (ih cs.length (by simp at hlength; omega) cs rfl)

theorem head?_pairsReplaced (cs : List Char) : (pairsReplaced cs).head? = cs.head? := by
  induction cs using pairs_induction with
  | nil => rfl
  | pair cs _ => rfl
  | single c cs h _ =>
      rw [pairsReplaced_cons h]
      rfl

theorem mem_of_mem_pairsReplaced {c : Char} (h : c ∈ pairsReplaced cs) : c ∈ cs := by
  induction cs using pairs_induction with
  | nil => exact h
  | pair cs ih =>
      rcases List.mem_cons.mp h with rfl | hmem
      · exact List.mem_cons_self
      · exact List.mem_cons_of_mem _ (List.mem_cons_of_mem _ (ih hmem))
  | single c' cs hno ih =>
      rw [pairsReplaced_cons hno] at h
      rcases List.mem_cons.mp h with rfl | hmem
      · exact List.mem_cons_self
      · exact List.mem_cons_of_mem _ (ih hmem)

/-! ## Runs halved -/

theorem run_prefix_cons_iff :
    List.replicate (k + 1) '-' <+: '-' :: cs ↔ List.replicate k '-' <+: cs := by
  rw [List.replicate_succ, List.cons_prefix_cons, and_iff_right rfl]

/-- No run of more than one begins at a character without a pair. -/
theorem not_run_prefix_cons (h : ¬ (c = '-' ∧ cs.head? = some '-')) (k : Nat) :
    ¬ List.replicate (k + 1 + 1) '-' <+: c :: cs := by
  rintro ⟨rest, hrest⟩
  rw [List.replicate_succ, List.replicate_succ, List.cons_append, List.cons_append,
    List.cons.injEq] at hrest
  obtain ⟨hc, hcs⟩ := hrest
  refine h ⟨hc.symm, ?_⟩
  rw [← hcs]
  rfl

theorem run_prefix_pairsReplaced_iff (k : Nat) (cs : List Char) :
    List.replicate (k + 1) '-' <+: pairsReplaced cs ↔ List.replicate (2 * k + 1) '-' <+: cs := by
  induction k generalizing cs with
  | zero =>
      have hhead : ∀ ds : List Char, ['-'] <+: ds ↔ ds.head? = some '-' := by
        intro ds
        cases ds <;> simp [List.cons_prefix_cons, eq_comm]
      show ['-'] <+: pairsReplaced cs ↔ ['-'] <+: cs
      rw [hhead, hhead, head?_pairsReplaced]
  | succ k ih =>
      rw [show 2 * (k + 1) + 1 = 2 * k + 1 + 1 + 1 by ring]
      induction cs using pairs_induction with
      | nil => simp
      | pair cs _ =>
          rw [pairsReplaced_pair, run_prefix_cons_iff, run_prefix_cons_iff, run_prefix_cons_iff, ih]
      | single c cs h _ =>
          have hreplaced : ¬ (c = '-' ∧ (pairsReplaced cs).head? = some '-') := by
            rwa [head?_pairsReplaced]
          rw [pairsReplaced_cons h]
          exact iff_of_false (not_run_prefix_cons hreplaced k) (not_run_prefix_cons h (2 * k + 1))

/-- A pass halves each run of hyphens, rounding up. -/
theorem run_infix_pairsReplaced_iff (k : Nat) (cs : List Char) :
    List.replicate (k + 1) '-' <:+: pairsReplaced cs ↔ List.replicate (2 * k + 1) '-' <:+: cs := by
  induction cs using pairs_induction with
  | nil => simp
  | pair cs ih =>
      -- a run that begins at the second hyphen has one as long at the first
      have hsecond : List.replicate (2 * k + 1) '-' <+: '-' :: cs →
          List.replicate (2 * k + 1) '-' <+: '-' :: '-' :: cs := by
        intro hrun
        exact run_prefix_cons_iff.mpr (.trans ⟨['-'], List.replicate_succ'.symm⟩ hrun)
      rw [pairsReplaced_pair, List.infix_cons_iff, ← pairsReplaced_pair,
        run_prefix_pairsReplaced_iff, ih, List.infix_cons_iff, List.infix_cons_iff]
      tauto
  | single c cs h ih =>
      rw [pairsReplaced_cons h, List.infix_cons_iff, ← pairsReplaced_cons h,
        run_prefix_pairsReplaced_iff, ih, ← List.infix_cons_iff]

/-- Two hyphens in a row are left where there were three. -/
theorem pair_infix_pairsReplaced_iff (cs : List Char) :
    "--".toList <:+: pairsReplaced cs ↔ "---".toList <:+: cs :=
  run_infix_pairsReplaced_iff 1 cs

/-! ## Pass after pass -/

/-- Passes are made as long as there are pairs: some before each of `n` passes, and none after them. -/
structure EndsAfter (n : Nat) (cs : List Char) : Prop where
  goes : ∀ m < n, "--".toList <:+: pairsReplaced^[m] cs
  ends : ¬ "--".toList <:+: pairsReplaced^[n] cs

theorem run_infix_iterate_iff (n k : Nat) (cs : List Char) :
    List.replicate (k + 1) '-' <:+: pairsReplaced^[n] cs ↔
      List.replicate (2 ^ n * k + 1) '-' <:+: cs := by
  induction n generalizing k with
  | zero => simp
  | succ n ih =>
      rw [Function.iterate_succ_apply', run_infix_pairsReplaced_iff, ih, pow_succ, mul_assoc]

/-- The number of passes is told by the longest run of hyphens. -/
theorem endsAfter_iff :
    EndsAfter n cs ↔ (∀ m < n, List.replicate (2 ^ m + 1) '-' <:+: cs) ∧
      ¬ List.replicate (2 ^ n + 1) '-' <:+: cs := by
  have hpair : ∀ m, "--".toList <:+: pairsReplaced^[m] cs ↔
      List.replicate (2 ^ m + 1) '-' <:+: cs := by
    intro m
    rw [← mul_one (2 ^ m), ← run_infix_iterate_iff]
    rfl
  simp only [← hpair]
  exact ⟨fun h => ⟨h.goes, h.ends⟩, fun h => ⟨h.1, h.2⟩⟩

/-- There are no more passes than it takes to halve the length of the text down to one. -/
theorem EndsAfter.le_clog (h : EndsAfter n cs) : n ≤ Nat.clog 2 cs.length := by
  refine Nat.le_of_not_lt fun hlt => ?_
  have hlength := ((endsAfter_iff.mp h).1 _ hlt).length_le
  rw [List.length_replicate] at hlength
  exact Nat.lt_irrefl _ ((Nat.lt_clog_iff_pow_lt one_lt_two).mpr hlength)

theorem singleHyphens_of_pair (h : "--".toList <:+: cs) :
    singleHyphens cs = singleHyphens (pairsReplaced cs) := by
  rw [singleHyphens, if_pos (Text.hasPart_iff.mpr h)]
  rfl

theorem singleHyphens_eq_self (h : ¬ "--".toList <:+: cs) : singleHyphens cs = cs := by
  rw [singleHyphens, if_neg (mt Text.hasPart_iff.mp h)]

theorem exists_endsAfter (cs : List Char) :
    ∃ n, EndsAfter n cs ∧ singleHyphens cs = pairsReplaced^[n] cs := by
  induction cs using singleHyphens.induct with
  | case1 cs hpart ih =>
      have hpair := Text.hasPart_iff.mp hpart
      obtain ⟨n, hn, heq⟩ := ih
      refine ⟨n + 1, ⟨?_, hn.ends⟩, (singleHyphens_of_pair hpair).trans heq⟩
      intro m hm
      cases m with
      | zero => exact hpair
      | succ m => exact hn.goes m (by omega)
  | case2 cs hpart =>
      have hpair := mt Text.hasPart_iff.mpr hpart
      exact ⟨0, ⟨fun m hm => absurd hm (by omega), hpair⟩, singleHyphens_eq_self hpair⟩

theorem not_pair_infix_singleHyphens (cs : List Char) : ¬ "--".toList <:+: singleHyphens cs := by
  obtain ⟨n, hn, heq⟩ := exists_endsAfter cs
  rw [heq]
  exact hn.ends

/-! ## One hyphen for each run -/

/-- One text is another one in which each run of hyphens, as long as it is, has become one hyphen. -/
inductive Collapses : List Char → List Char → Prop
  | nil : Collapses [] []
  | other {c : Char} {cs ds : List Char} (hc : c ≠ '-') :
      Collapses cs ds → Collapses (c :: cs) (c :: ds)
  -- nothing, or another character, follows the run, so that it is taken whole
  | run {cs ds : List Char} (k : Nat) (hend : cs.head? ≠ some '-') :
      Collapses cs ds → Collapses ('-' :: (List.replicate k '-' ++ cs)) ('-' :: ds)

/-- A hyphen in front of a run makes no difference. -/
theorem collapses_pair_iff (h : cs.head? = some '-') :
    Collapses ('-' :: cs) ds ↔ Collapses cs ds := by
  constructor
  · intro hcs
    cases hcs with
    | other hc _ => exact absurd rfl hc
    | run k hend hrest =>
        cases k with
        | zero => exact absurd h hend
        | succ k => exact .run k hend hrest
  · intro hcs
    cases hcs with
    | nil => cases h
    | other hc _ => exact absurd (Option.some.inj h) hc
    | run k hend hrest => exact .run (k + 1) hend hrest

/-- Any other character is kept, and so is a hyphen without one behind it. -/
theorem collapses_single_iff (h : ¬ (c = '-' ∧ cs.head? = some '-')) :
    Collapses (c :: cs) ds ↔ ∃ es, ds = c :: es ∧ Collapses cs es := by
  constructor
  · intro hcs
    cases hcs with
    | other _ hrest => exact ⟨_, rfl, hrest⟩
    | run k hend hrest =>
        cases k with
        | zero => exact ⟨_, rfl, hrest⟩
        | succ k => exact absurd ⟨rfl, rfl⟩ h
  · rintro ⟨es, rfl, hrest⟩
    by_cases hc : c = '-'
    · subst hc
      exact .run 0 (fun hhead => h ⟨rfl, hhead⟩) hrest
    · exact .other hc hrest

/-- A pass does not change what a text collapses to. -/
theorem collapses_pairsReplaced_iff : Collapses (pairsReplaced cs) ds ↔ Collapses cs ds := by
  induction cs using pairs_induction generalizing ds with
  | nil => exact Iff.rfl
  | pair cs ih =>
      have hpair : Collapses ('-' :: '-' :: cs) ds ↔ Collapses ('-' :: cs) ds := collapses_pair_iff rfl
      rw [pairsReplaced_pair, hpair]
      by_cases h : cs.head? = some '-'
      · -- the pair stands in front of more hyphens
        have hreplaced : (pairsReplaced cs).head? = some '-' := by rwa [head?_pairsReplaced]
        rw [collapses_pair_iff h, collapses_pair_iff hreplaced]
        exact ih
      · have hreplaced : (pairsReplaced cs).head? ≠ some '-' := by rwa [head?_pairsReplaced]
        rw [collapses_single_iff (mt And.right h), collapses_single_iff (mt And.right hreplaced)]
        simp only [ih]
  | single c cs h ih =>
      have hreplaced : ¬ (c = '-' ∧ (pairsReplaced cs).head? = some '-') := by
        rwa [head?_pairsReplaced]
      rw [pairsReplaced_cons h, collapses_single_iff h, collapses_single_iff hreplaced]
      simp only [ih]

/-- A text without pairs is what it collapses to. -/
theorem collapses_iff_eq (h : ¬ "--".toList <:+: cs) : Collapses cs ds ↔ ds = cs := by
  induction cs generalizing ds with
  | nil =>
      constructor
      · rintro ⟨⟩
        rfl
      · rintro rfl
        exact .nil
  | cons c cs ih =>
      rw [pair_infix_cons_iff, not_or] at h
      rw [collapses_single_iff h.1]
      simp only [ih h.2, exists_eq_right]

theorem collapses_iterate_iff (n : Nat) :
    Collapses (pairsReplaced^[n] cs) ds ↔ Collapses cs ds := by
  induction n with
  | zero => exact Iff.rfl
  | succ n ih => rw [Function.iterate_succ_apply', collapses_pairsReplaced_iff, ih]

/-- The passes over a text end in what it collapses to. -/
theorem collapses_iff : Collapses cs ds ↔ ds = singleHyphens cs := by
  obtain ⟨n, hn, heq⟩ := exists_endsAfter cs
  rw [← collapses_iterate_iff n, collapses_iff_eq hn.ends, heq]

theorem collapses_singleHyphens (cs : List Char) : Collapses cs (singleHyphens cs) :=
  collapses_iff.mpr rfl

theorem Collapses.sublist (h : Collapses cs ds) : ds.Sublist cs := by
  induction h with
  | nil => exact .slnil
  | other _ _ ih => exact ih.cons_cons _
  | run k _ _ ih => exact (List.sublist_append_of_sublist_right ih).cons_cons _

/-- What is not a hyphen is kept, in its order. -/
theorem Collapses.filter_eq (h : Collapses cs ds) :
    ds.filter (· ≠ '-') = cs.filter (· ≠ '-') := by
  induction h with
  | nil => rfl
  | other hc _ ih => rw [List.filter_cons, List.filter_cons, ih]
  | run k _ _ ih =>
      simpa [List.filter_cons, List.filter_append, List.filter_replicate] using ih

/-- An ending without hyphens is kept as it is. -/
theorem Collapses.append (h : Collapses cs ds) (hes : '-' ∉ es) :
    Collapses (cs ++ es) (ds ++ es) := by
  induction h with
  | nil =>
      have hpair : ¬ "--".toList <:+: es := fun hpair => hes (hpair.subset (by decide))
      exact (collapses_iff_eq hpair).mpr rfl
  | other hc _ ih => exact .other hc ih
  | @run cs ds k hend _ ih =>
      have hend' : (cs ++ es).head? ≠ some '-' := by
        cases cs with
        | nil => exact fun hhead => hes (List.mem_of_head? hhead)
        | cons c cs => exact hend
      rw [List.cons_append, List.append_assoc]
      exact .run k hend' ih

theorem singleHyphens_append (hds : '-' ∉ ds) (cs : List Char) :
    singleHyphens (cs ++ ds) = singleHyphens cs ++ ds :=
  (collapses_iff.mp ((collapses_singleHyphens cs).append hds)).symm

end Conformity

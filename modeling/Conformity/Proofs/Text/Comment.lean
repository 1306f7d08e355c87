import Conformity.Proofs.Text.Hyphens
import Mathlib.Data.List.DropRight

/-!
# Hyphens in comments

A comment may have neither two hyphens in a row nor one at its end (`IsCommentText`). What
`commentSafe` makes of a text is always such a text (`isCommentText_commentSafe`), and texts that are
one already are left alone (`commentSafe_eq_self_iff`). `commentSafe_exact` says what it makes of any
text: what the text collapses to, without the hyphens at its end.
-/

namespace Conformity

variable {c : Char} {cs ds : List Char}

/-- A text that can stand in a comment: no two hyphens in a row, and none at the end. -/
def IsCommentText (cs : List Char) : Prop :=
  ¬ "--".toList <:+: cs ∧ cs.getLast? ≠ some '-'

instance (cs : List Char) : Decidable (IsCommentText cs) :=
  inferInstanceAs (Decidable (_ ∧ _))

/-- A comment goes on behind a character unless a pair of hyphens begins there; its end has one. -/
theorem isCommentText_cons_iff :
    IsCommentText (c :: cs) ↔ ¬ (c = '-' ∧ (cs ++ "--".toList).head? = some '-') ∧ IsCommentText cs := by
  unfold IsCommentText
  rw [pair_infix_cons_iff]
  cases cs with
  | nil => simp
  | cons d cs =>
      rw [List.cons_append, List.head?_cons, List.head?_cons, List.getLast?_cons_cons]
      tauto

theorem isCommentText_spaced_iff :
    IsCommentText (" ".toList ++ cs ++ " ".toList) ↔ ¬ "--".toList <:+: cs := by
  have hconcat : "--".toList <:+: cs ++ " ".toList ↔ "--".toList <:+: cs := by
    induction cs with
    | nil => decide
    | cons c cs ih =>
        rw [List.cons_append, pair_infix_cons_iff, pair_infix_cons_iff, ih]
        cases cs <;> simp
  have hcons : "--".toList <:+: " ".toList ++ cs ++ " ".toList ↔ "--".toList <:+: cs := by
    rw [← hconcat]
    show "--".toList <:+: ' ' :: (cs ++ " ".toList) ↔ _
    rw [pair_infix_cons_iff]
    simp
  have hlast : (" ".toList ++ cs ++ " ".toList).getLast? = some ' ' := List.getLast?_concat
  rw [IsCommentText, hcons, hlast]
  simp

/-! ## Texts made safe -/

theorem commentSafe_eq_rdropWhile (cs : List Char) :
    commentSafe cs = (singleHyphens cs).rdropWhile (· == '-') := rfl

theorem isCommentText_commentSafe (cs : List Char) : IsCommentText (commentSafe cs) := by
  rw [commentSafe_eq_rdropWhile]
  constructor
  · intro hpair
    have hfront : (singleHyphens cs).rdropWhile (· == '-') <+: singleHyphens cs :=
      List.rdropWhile_prefix _ _
    exact not_pair_infix_singleHyphens cs (hpair.trans hfront.isInfix)
  · intro hlast
    obtain ⟨hne, hlast⟩ := List.mem_getLast?_eq_getLast hlast
    exact List.rdropWhile_last_not _ _ hne (by simp [← hlast])

/-- An ending without hyphens is kept, and with it a hyphen in front. -/
theorem commentSafe_append (hds : '-' ∉ ds) (hne : ds ≠ []) (cs : List Char) :
    commentSafe (cs ++ ds) = singleHyphens cs ++ ds := by
  rw [commentSafe_eq_rdropWhile, singleHyphens_append hds, List.rdropWhile_eq_self_iff]
  intro hall
  rw [List.getLast_append_of_ne_nil _ hne, beq_iff_eq]
  intro hlast
  exact hds (hlast ▸ List.getLast_mem hne)

/-- Texts that can stand in a comment are left alone, and no others. -/
theorem commentSafe_eq_self_iff : commentSafe cs = cs ↔ IsCommentText cs := by
  constructor
  · intro h
    rw [← h]
    exact isCommentText_commentSafe cs
  · rintro ⟨hpair, hlast⟩
    rw [commentSafe_eq_rdropWhile, singleHyphens_eq_self hpair, List.rdropWhile_eq_self_iff]
    intro hne hhyphen
    rw [List.getLast?_eq_some_getLast hne, eq_of_beq hhyphen] at hlast
    exact hlast rfl

theorem commentSafe_sublist (cs : List Char) : (commentSafe cs).Sublist cs := by
  rw [commentSafe_eq_rdropWhile]
  exact (List.rdropWhile_prefix _ _).sublist.trans (collapses_singleHyphens cs).sublist

theorem filter_commentSafe (cs : List Char) :
    (commentSafe cs).filter (· ≠ '-') = cs.filter (· ≠ '-') := by
  -- only hyphens are dropped at the end
  have hdropped : ((singleHyphens cs).rtakeWhile (· == '-')).filter (· ≠ '-') = [] := by
    refine List.filter_eq_nil_iff.mpr fun c hc => ?_
    simpa using List.mem_rtakeWhile_imp hc
  calc (commentSafe cs).filter (· ≠ '-')
      = (commentSafe cs ++ (singleHyphens cs).rtakeWhile (· == '-')).filter (· ≠ '-') := by
        rw [List.filter_append, hdropped, List.append_nil]
    _ = (singleHyphens cs).filter (· ≠ '-') := by
        rw [commentSafe_eq_rdropWhile, List.rdropWhile_append_rtakeWhile]
    _ = cs.filter (· ≠ '-') := (collapses_singleHyphens cs).filter_eq

/-- Every text is made safe. Passes over its pairs of hyphens come to an end, after no more of them than
it takes to halve the length down to one, and in the one text that it collapses to; the hyphens at the
end of that are dropped. So what is left can stand in a comment, has all other characters in their order,
and stays as it is when it is made safe again. -/
theorem commentSafe_exact (cs : List Char) :
    (∃ n ds, EndsAfter n cs ∧ n ≤ Nat.clog 2 cs.length ∧ ds = pairsReplaced^[n] cs ∧
      (∀ es, Collapses cs es ↔ es = ds) ∧ commentSafe cs = ds.rdropWhile (· == '-')) ∧
    IsCommentText (commentSafe cs) ∧
    (commentSafe cs).filter (· ≠ '-') = cs.filter (· ≠ '-') ∧
    commentSafe (commentSafe cs) = commentSafe cs := by
  obtain ⟨n, hends, hpasses⟩ := exists_endsAfter cs
  have hsafe := isCommentText_commentSafe cs
  refine ⟨⟨n, singleHyphens cs, hends, hends.le_clog, hpasses, fun es => collapses_iff,
    commentSafe_eq_rdropWhile cs⟩, hsafe, filter_commentSafe cs, commentSafe_eq_self_iff.mpr hsafe⟩

example : commentSafe "a----b---".toList = "a-b".toList := by cbv

end Conformity

import Mathlib.Data.List.DropRight
import Mathlib.Data.List.Infix
import Conformity.Text.Blank
import Conformity.Text.Cut

/-!
# Texts cut and trimmed

What the functions that take texts apart mean for the texts: a text with a beginning is the beginning and
what follows it (`after?_eq_some_iff`), and the parts between the occurrences of a character are those of
the standard library (`split_eq_splitOnP`).

A text is trimmed if it neither starts nor ends with a blank. Trimming leaves such a text alone
(`trim_eq_self_iff`) and makes one of any text (`isTrimmed_trim`), an empty one if there is nothing
but blanks. The words of a text are what stands between its blanks, as far as anything stands there
(`words_eq_splitOnP`). So squeezing a text makes one space of each run of blanks, and drops the runs at
its ends.
-/

namespace Conformity.Text

/-! ## Beginnings and parts -/

section Cut

variable {beginning cs rest : List Char}

theorem after?_eq_some_iff : after? beginning cs = some rest ↔ cs = beginning ++ rest := by
  induction beginning generalizing cs with
  | nil => simp [after?]
  | cons c beginning ih =>
      cases cs with
      | nil => simp [after?]
      | cons d cs =>
          by_cases hcd : c = d
          · simp [after?, hcd, ih]
          · simp [after?, hcd, Ne.symm hcd]

theorem after?_append (beginning rest : List Char) : after? beginning (beginning ++ rest) = some rest :=
  after?_eq_some_iff.mpr rfl

theorem startsWith_iff : startsWith beginning cs ↔ beginning <+: cs := by
  rw [startsWith, Option.isSome_iff_exists]
  constructor
  · rintro ⟨rest, h⟩
    exact ⟨rest, (after?_eq_some_iff.mp h).symm⟩
  · rintro ⟨rest, h⟩
    exact ⟨rest, after?_eq_some_iff.mpr h.symm⟩

theorem hasPart_iff {part : List Char} : hasPart part cs ↔ part <:+: cs := by
  induction cs with
  | nil => simp [hasPart]
  | cons c cs ih => rw [hasPart, Bool.or_eq_true, startsWith_iff, ih, List.infix_cons_iff]

theorem split_eq_splitOnP (c : Char) (cs : List Char) : split c cs = cs.splitOnP (· == c) := by
  have hfrom : ∀ part, splitFrom c part cs = cs.splitOnPPrepend (· == c) part := by
    induction cs with
    | nil => exact fun _ => rfl
    | cons d cs ih =>
        intro part
        rw [splitFrom, ih, ih, List.splitOnPPrepend_cons_eq_if]
        rfl
  exact hfrom []

end Cut

/-! ## Trimmed texts -/

/-- Neither the first nor the last character is a blank. -/
def IsTrimmed (s : String) : Prop :=
  (∀ c ∈ s.toList.head?, ¬ isBlank c) ∧ ∀ c ∈ s.toList.getLast?, ¬ isBlank c

instance (s : String) : Decidable (IsTrimmed s) :=
  decidable_of_iff ((s.toList.head?.all fun c => !isBlank c) = true ∧
    (s.toList.getLast?.all fun c => !isBlank c) = true)
    (by
      simp only [IsTrimmed, Option.all_eq_true, Bool.not_eq_true', Bool.not_eq_true,
        Option.mem_def])

theorem trimStart_eq_self_iff {cs : List Char} :
    trimStart cs = cs ↔ ∀ c ∈ cs.head?, ¬ isBlank c := by
  cases cs with
  | nil => simp [trimStart]
  | cons c cs => simp [trimStart]

theorem trimEnd_eq_self_iff {cs : List Char} :
    trimEnd cs = cs ↔ ∀ c ∈ cs.getLast?, ¬ isBlank c := by
  show cs.rdropWhile isBlank = cs ↔ _
  rw [List.rdropWhile_eq_self_iff]
  constructor
  · intro h c hc
    obtain ⟨hne, rfl⟩ := List.mem_getLast?_eq_getLast hc
    exact h hne
  · intro h hne
    exact h _ (List.getLast?_eq_some_getLast hne)

/-- What is dropped at the end leaves the front of a text as it is. -/
theorem trimStart_trimEnd {cs : List Char} (h : trimStart cs = cs) :
    trimStart (trimEnd cs) = trimEnd cs := by
  rw [trimStart_eq_self_iff] at h ⊢
  intro c hc
  have hprefix : trimEnd cs <+: cs := List.rdropWhile_prefix isBlank cs
  cases hcs : trimEnd cs with
  | nil => simp [hcs] at hc
  | cons d ds =>
      obtain ⟨rest, hrest⟩ := hprefix
      rw [hcs] at hc hrest
      refine h c ?_
      rw [← hrest]
      exact hc

theorem trimChars_eq_self_iff {cs : List Char} :
    trimChars cs = cs ↔ trimStart cs = cs ∧ trimEnd cs = cs := by
  constructor
  · intro h
    -- neither step can lose a character if both together lose none
    have hlength : (trimEnd (trimStart cs)).length = cs.length := congrArg List.length h
    have hend : (trimEnd (trimStart cs)).length ≤ (trimStart cs).length :=
      (List.rdropWhile_prefix isBlank _).length_le
    have hsuffix : trimStart cs <:+ cs := List.dropWhile_suffix isBlank
    have hstart : trimStart cs = cs := hsuffix.eq_of_length_le (by omega)
    refine ⟨hstart, ?_⟩
    rwa [trimChars, hstart] at h
  · rintro ⟨hstart, hend⟩
    rw [trimChars, hstart, hend]

theorem trimChars_trimChars (cs : List Char) : trimChars (trimChars cs) = trimChars cs := by
  have hstart : trimStart (trimStart cs) = trimStart cs := List.dropWhile_idempotent isBlank cs
  have hend : trimEnd (trimEnd (trimStart cs)) = trimEnd (trimStart cs) :=
    List.rdropWhile_idempotent isBlank _
  exact trimChars_eq_self_iff.mpr ⟨trimStart_trimEnd hstart, hend⟩

/-- Trimming leaves alone exactly the trimmed texts. -/
theorem trim_eq_self_iff {s : String} : trim s = s ↔ IsTrimmed s := by
  rw [trim, ← String.toList_inj, String.toList_ofList, trimChars_eq_self_iff,
    trimStart_eq_self_iff, trimEnd_eq_self_iff, IsTrimmed]

@[simp] theorem trim_trim (s : String) : trim (trim s) = trim s := by
  rw [trim, trim, String.toList_ofList, trimChars_trimChars]

@[simp] theorem isTrimmed_trim (s : String) : IsTrimmed (trim s) :=
  trim_eq_self_iff.mp (trim_trim s)

/-! ## Blank texts -/

theorem all_dropWhile {α : Type} (p : α → Bool) (xs : List α) :
    (xs.dropWhile p).all p = xs.all p := by
  induction xs with
  | nil => rfl
  | cons x xs ih =>
      rw [List.dropWhile_cons]
      split
      · next hx => rw [ih, List.all_cons, hx, Bool.true_and]
      · rfl

/-- A text is blank before and after it was trimmed. -/
@[simp] theorem isBlankText_trim (s : String) : isBlankText (trim s) = isBlankText s := by
  unfold isBlankText trim
  rw [String.toList_ofList, trimChars, trimEnd, List.all_reverse, all_dropWhile, List.all_reverse,
    trimStart, all_dropWhile]

/-- The only trimmed text that is blank is the empty one. -/
theorem IsTrimmed.isEmpty {s : String} (h : IsTrimmed s) : s.isEmpty = isBlankText s := by
  rw [Bool.eq_iff_iff, String.isEmpty_iff, ← String.toList_inj, isBlankText]
  constructor
  · intro hnil
    rw [hnil]
    rfl
  · intro hblank
    cases hs : s.toList with
    | nil => rfl
    | cons c cs =>
        rw [hs, List.all_cons, Bool.and_eq_true] at hblank
        exact absurd hblank.1 (h.1 c (by simp [hs]))

/-- Nothing is left exactly of the blank texts. -/
@[simp] theorem isEmpty_trim (s : String) : (trim s).isEmpty = isBlankText s := by
  rw [(isTrimmed_trim s).isEmpty, isBlankText_trim]

/-! ## Words -/

/-- A text with one space for each run of blanks inside, and none at its ends. -/
def collapsed (s : String) : String :=
  " ".intercalate (((s.toList.splitOnP isBlank).filter (!·.isEmpty)).map String.ofList)

theorem wordsFrom_eq_filter (word cs : List Char) :
    wordsFrom word cs = (cs.splitOnPPrepend isBlank word).filter (!·.isEmpty) := by
  induction cs generalizing word with
  | nil => cases word <;> simp [wordsFrom]
  | cons c cs ih =>
      rw [wordsFrom, List.splitOnPPrepend_cons_eq_if]
      split
      · -- a blank ends the word so far, which may have no characters
        have hrest : wordsFrom [] cs = (cs.splitOnP isBlank).filter (!·.isEmpty) := ih []
        rw [List.filter_cons, ← hrest]
        cases word <;> simp
      · exact ih (c :: word)

theorem words_eq_splitOnP (s : String) :
    words s = ((s.toList.splitOnP isBlank).filter (!·.isEmpty)).map String.ofList := by
  rw [words, wordsFrom_eq_filter]
  rfl

theorem squeeze_eq_collapsed (s : String) : squeeze s = collapsed s := by
  rw [squeeze, collapsed, words_eq_splitOnP]

end Conformity.Text

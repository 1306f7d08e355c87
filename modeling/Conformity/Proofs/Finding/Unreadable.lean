import Conformity.Impact.Warning
import Conformity.Proofs.Finding.Report
import Conformity.Proofs.Markup.Label

/-!
# Bytes that cannot be read

Bytes that are no document are told as one finding that holds their text (`Tells`), and have no rule
identifiers (`Carries`). Both readers know one way of failing only: the document is unreadable. A
heading that names a foreign character set stops them in another way, before anything else of the
document is looked at. This is all that can stop them (`read_bytes_iff`).
-/

namespace Conformity.Report

open Markup Markup.Guarded Impact

variable {bs : Bytes}

/-- What is to be told of bytes: nothing if they are blank, the findings of the document if they are
one, and else one finding that holds their text. -/
inductive Tells (bs : Bytes) : List Finding → Prop
  | blank : Text.isBlankText (text (.bytes bs)) → Tells bs []
  | document {root : Node} : ¬ Text.isBlankText (text (.bytes bs)) →
      Guarded.read (.bytes bs) = .ok root → Tells bs (findingsOf root)
  | verbatim : ¬ Text.isBlankText (text (.bytes bs)) →
      (∀ root, Guarded.read (.bytes bs) ≠ .ok root) →
      Tells bs [{ message := Text.trim (text (.bytes bs)) }]

/-- The rule identifiers that bytes carry: none if they are no document. -/
inductive Carries (bs : Bytes) : List String → Prop
  | document {root : Node} : Guarded.read (.bytes bs) = .ok root → Carries bs (ruleIdsOf root)
  | unreadable : (∀ root, Guarded.read (.bytes bs) ≠ .ok root) → Carries bs []

/-- No heading of the bytes names a foreign character set. -/
def IsHome (bs : Bytes) : Prop := ∀ label, Names bs label → ¬ IsForeign label

/-- Bytes are read as a document, or found unreadable, exactly if they name no foreign character
set. -/
theorem isHome_iff :
    IsHome bs ↔ (∃ root, Guarded.read (.bytes bs) = .ok root) ∨
      Guarded.read (.bytes bs) = .error .unreadable := by
  have hstopped : IsHome bs ↔ ¬ ∃ r, Guarded.read (.bytes bs) = .error r ∧ r ≠ .unreadable := by
    rw [read_stopped_iff]
    simp [IsHome]
  rw [hstopped]
  cases Guarded.read (.bytes bs) with
  | ok root => simp
  | error r => simp

/-- Bytes that name a character set at all are not blank. -/
theorem not_isBlankText_of_names {label : String} (h : Names bs label) :
    ¬ Text.isBlankText (text (.bytes bs)) := by
  obtain ⟨c, hc, hblank⟩ := exists_not_isBlank_of_label? (label?_of_iff_names.mpr h)
  intro hall
  rw [Text.isBlankText, text, String.toList_ofList] at hall
  exact hblank (List.all_eq_true.mp hall c hc)

theorem isHome_of_isBlankText (h : Text.isBlankText (text (.bytes bs))) : IsHome bs :=
  fun _ hnames _ => not_isBlankText_of_names hnames h

theorem exists_findings_iff :
    (∃ fs, findings (.bytes bs) = .ok fs ∧ Tells bs fs) ↔ IsHome bs := by
  unfold findings
  by_cases hblank : Text.isBlankText (text (.bytes bs))
  · rw [if_pos hblank]
    exact iff_of_true ⟨[], rfl, .blank hblank⟩ (isHome_of_isBlankText hblank)
  · rw [if_neg hblank, isHome_iff]
    cases hread : Guarded.read (.bytes bs) with
    | ok root => exact iff_of_true ⟨_, rfl, .document hblank hread⟩ (.inl ⟨root, rfl⟩)
    | error r =>
        by_cases hr : r = .unreadable
        · subst hr
          exact iff_of_true ⟨_, rfl, .verbatim hblank (by simp [hread])⟩ (.inr rfl)
        · refine iff_of_false ?_ (by simp [hr])
          rintro ⟨fs, hfs, -⟩
          cases r <;> simp at hfs hr

theorem exists_ruleIds_iff :
    (∃ ids, ruleIds (some bs) = .ok ids ∧ Carries bs ids) ↔ IsHome bs := by
  cases bs with
  | nil =>
      -- no bytes are not even tried
      have hempty : Text.isBlankText (text (.bytes [])) := rfl
      exact iff_of_true ⟨[], rfl, .unreadable fun _ h => not_isBlankText_of_read h hempty⟩
        (isHome_of_isBlankText hempty)
  | cons b bs =>
      rw [isHome_iff]
      simp only [ruleIds, Option.getD_some]
      cases hread : Guarded.read (.bytes (b :: bs)) with
      | ok root => exact iff_of_true ⟨_, rfl, .document hread⟩ (.inl ⟨root, rfl⟩)
      | error r =>
          by_cases hr : r = .unreadable
          · subst hr
            exact iff_of_true ⟨[], rfl, .unreadable (by simp [hread])⟩ (.inr rfl)
          · refine iff_of_false ?_ (by simp [hr])
            rintro ⟨ids, hids, -⟩
            cases r <;> simp at hids hr

/-- A document that is cut off, with a byte that stands for nothing. -/
def brokenBytes : Bytes := bytesOf " <a>no\tnumber" ++ [0xFF, 0x0A]

/-- A document whose heading names a character set that nobody knows. -/
def foreignBytes : Bytes := bytesOf "<?xml version='1.0' encoding='nope'?><a/>"

end Conformity.Report

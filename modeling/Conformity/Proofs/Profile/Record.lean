import Conformity.Profile.Record
import Conformity.Proofs.Data.Form
import Conformity.Proofs.Profile.Chain

/-!
# Records that can be told

A record that does not fit its form is refused with all its misfits, if these can be told in an
order. The two sections of lists by type are the only tables of a record, so it is their keys that
decide (`Profile.exists_misfits_iff`).
-/

namespace Conformity

open Form Route

/-! ## The forms of a record -/

theorem isPlain_looseText : looseText.IsPlain := .ofSort

theorem isPlain_assertionsForm : assertionsForm.IsPlain :=
  .listOf (.record (by decide) (by simp [isPlain_looseText]))

theorem isPlain_overridesForm : overridesForm.IsPlain :=
  .listOf (.record (by decide) (by simp [isPlain_looseText]))

theorem isPlain_ruleForm : ruleForm.IsPlain := by
  refine .record (by decide) ?_
  simp only [List.forall_mem_cons, List.not_mem_nil, false_implies, implies_true, and_true]
  exact ⟨.choice, .ofSort, .listOf .ofSort, isPlain_looseText⟩

namespace Profile

/-- In both sections of a record, what does not fit lies under keys of one sort. -/
def CanBeTold (d : Data) : Prop :=
  ∀ fields, d.entries? = some fields →
    KeysAgree (unfitKeys overridesForm ((Data.field overridesKey fields).getD .null)) ∧
      KeysAgree (unfitKeys assertionsForm ((Data.field assertionsKey fields).getD .null))

theorem keysAgree_unfitKeys_getD {form : Form} {d? : Option Data} :
    KeysAgree (unfitKeys form (d?.getD .null)) ↔ ∀ d, d? = some d → KeysAgree (unfitKeys form d) := by
  cases d? with
  | none => simp [Data.null, unfitKeys, Data.entries?, KeysAgree]
  | some d => simp

theorem tellable_profileForm_iff (d : Data) :
    Misfit.Tellable (profileForm.misfits d) ↔ CanBeTold d := by
  rw [profileForm, tellable_record_iff (by decide)]
  simp only [List.forall_mem_cons, List.not_mem_nil, false_implies, implies_true, and_true]
  unfold CanBeTold
  simp only [keysAgree_unfitKeys_getD]
  refine forall_congr' fun fields => imp_congr_right fun _ => ?_
  constructor
  · rintro ⟨-, -, -, hoverrides, hassertions⟩
    exact ⟨fun d hd => (tellable_tableOf_iff isPlain_overridesForm).mp (hoverrides d hd),
      fun d hd => (tellable_tableOf_iff isPlain_assertionsForm).mp (hassertions d hd)⟩
  · rintro ⟨hoverrides, hassertions⟩
    exact ⟨fun d _ => isPlain_looseText.tellable d, fun d _ => IsPlain.ofSort.tellable d,
      fun d _ => isPlain_ruleForm.listOf.tellable d,
      fun d hd => (tellable_tableOf_iff isPlain_overridesForm).mpr (hoverrides d hd),
      fun d hd => (tellable_tableOf_iff isPlain_assertionsForm).mpr (hassertions d hd)⟩

/-! ## Reading records -/

/-- A record fits the form of profiles. -/
def IsRecord (d : Data) : Prop := profileForm.misfits d = []

variable {name : String} {d : Data} {p : Profile}

theorem ofRecord_eq_ok_iff :
    ofRecord name d = .ok p ↔ IsRecord d ∧ ofFields name ((d.entries?).getD []) = p := by
  unfold ofRecord IsRecord
  split
  · next h => simp [h]
  · next h =>
    constructor
    · intro heq
      split at heq <;> cases heq
    · exact fun heq => absurd heq.1 h

theorem canBeTold_of_isRecord (h : IsRecord d) : CanBeTold d := by
  rw [← tellable_profileForm_iff, h]
  exact fun _ hm => nomatch hm

/-- A record that does not fit is refused with its misfits exactly if they can be told. -/
theorem exists_misfits_iff (name : String) (h : ¬ IsRecord d) :
    (∃ told, ofRecord name d = .error (.misfits told)) ↔ CanBeTold d := by
  rw [← tellable_profileForm_iff, ← Misfit.exists_report_iff]
  unfold ofRecord
  split
  · next heq => exact absurd heq h
  · cases Misfit.report (profileForm.misfits d) <;> simp

/-- Reading a record breaks off exactly if its misfits cannot be told. -/
theorem exists_route_iff (name : String) :
    (∃ e, ofRecord name d = .error (.route e)) ↔ ¬ CanBeTold d := by
  by_cases h : IsRecord d
  · have hok : ofRecord name d = .ok (ofFields name ((d.entries?).getD [])) :=
      ofRecord_eq_ok_iff.mpr ⟨h, rfl⟩
    rw [hok]
    simp [canBeTold_of_isRecord h]
  · rw [← exists_misfits_iff name h]
    cases hd : ofRecord name d with
    | ok p => exact absurd (ofRecord_eq_ok_iff.mp hd).1 h
    | error e => cases e <;> simp

/-! ## Profiles of records are proper -/

theorem nodup_names_sectionOf {α : Type} (read : Data.Fields → Option α) (d : Data) :
    (sectionOf read d).names.Nodup := by
  unfold sectionOf
  generalize (d.entries?).getD [] = es
  have hempty : (Table.names ([] : Table (List α))).Nodup := List.nodup_nil
  revert hempty
  generalize ([] : Table (List α)) = t
  intro ht
  induction es generalizing t with
  | nil => exact ht
  | cons e es ih =>
      refine ih _ ?_
      dsimp only
      split
      · exact ht
      · exact Table.nodup_names_alter ht _ _

theorem isProper_of_ofRecord (h : ofRecord name d = .ok p) : p.IsProper := by
  obtain ⟨-, rfl⟩ := ofRecord_eq_ok_iff.mp h
  exact nodup_names_sectionOf _ _

end Profile

end Conformity

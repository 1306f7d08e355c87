import Mathlib.Data.List.Perm.Basic
import Conformity.Markup.Tree

/-!
# Setting attributes

To set an attribute in no namespace changes this attribute and no other one: in place if it is there,
and behind the others if it is not (`names_setAttribute`, `filter_setAttribute`). What is set already
may be set again (`HasValue.setAttribute_eq`).
-/

namespace Conformity.Markup

theorem Name.eq_of_isPlain {n : Name} {b b' : String} (h : n.isPlain b) (h' : n.isPlain b') :
    b = b' := by
  simp only [isPlain, Bool.and_eq_true, beq_iff_eq] at h h'
  rw [← h.2, ← h'.2]

namespace Node

variable {k k' v w u : String} {as : List Attribute}

@[simp] theorem isPlain_plain (k k' : String) : ({ base := k } : Name).isPlain k' = (k == k') := by
  simp [Name.isPlain]

/-! ## One attribute -/

/-- The attribute of a base is there, with a value that refers to nothing. -/
def HasValue (k v : String) (as : List Attribute) : Prop :=
  ∃ name, as.find? (·.name.isPlain k) = some ⟨name, v, none⟩

theorem hasValue_setAttribute (k v : String) (as : List Attribute) :
    HasValue k v (setAttribute k v as) := by
  unfold HasValue
  induction as with
  | nil => exact ⟨{ base := k }, by simp [setAttribute]⟩
  | cons a as ih =>
      by_cases ha : a.name.isPlain k
      · exact ⟨a.name, by simp [setAttribute, ha]⟩
      · simpa [setAttribute, ha] using ih

/-- Setting an attribute changes no other one. -/
theorem find?_setAttribute (h : k ≠ k') (as : List Attribute) :
    (setAttribute k v as).find? (·.name.isPlain k') = as.find? (·.name.isPlain k') := by
  induction as with
  | nil => simp [setAttribute, h]
  | cons a as ih =>
      by_cases hk : a.name.isPlain k
      · have hk' : ¬ a.name.isPlain k' := fun hk' => h (Name.eq_of_isPlain hk hk')
        simp [setAttribute, hk, hk']
      · by_cases hk' : a.name.isPlain k'
        · simp [setAttribute, hk, hk']
        · simpa [setAttribute, hk, hk'] using ih

theorem attribute?_setAttribute (h : k ≠ k') (as : List Attribute) :
    attribute? k' (setAttribute k v as) = attribute? k' as := by
  rw [attribute?, find?_setAttribute h, attribute?]

theorem HasValue.setAttribute (h : HasValue k' w as) (hne : k ≠ k') (v : String) :
    HasValue k' w (setAttribute k v as) := by
  obtain ⟨name, hname⟩ := h
  exact ⟨name, (find?_setAttribute hne as).trans hname⟩

/-- An attribute that has its value already may be set. -/
theorem HasValue.setAttribute_eq (h : HasValue k v as) : Node.setAttribute k v as = as := by
  obtain ⟨name, hname⟩ := h
  induction as with
  | nil => cases hname
  | cons a as ih =>
      by_cases ha : a.name.isPlain k
      · have hfound : a = ⟨name, v, none⟩ := by simpa [ha] using hname
        rw [Node.setAttribute, if_pos ha, hfound]
      · have hbehind : as.find? (·.name.isPlain k) = some ⟨name, v, none⟩ := by
          simpa [ha] using hname
        rw [Node.setAttribute, if_neg ha, ih hbehind]

/-! ## The others -/

/-- The attributes apart from one stay, in order. -/
theorem filter_setAttribute {p : Attribute → Bool} (h : ∀ a : Attribute, a.name.isPlain k → ¬ p a)
    (v : String) (as : List Attribute) : (setAttribute k v as).filter p = as.filter p := by
  induction as with
  | nil => simpa [setAttribute] using h ⟨{ base := k }, v, none⟩ (by simp)
  | cons a as ih =>
      by_cases ha : a.name.isPlain k
      · have hnew : ¬ p { a with value := v, pieces := none } := h _ ha
        rw [setAttribute, if_pos ha, List.filter_cons_of_neg hnew, List.filter_cons_of_neg (h a ha)]
      · rw [setAttribute, if_neg ha, List.filter_cons, List.filter_cons, ih]

/-- Every attribute keeps its place, and one that is not there comes last. -/
theorem names_setAttribute (k v : String) (as : List Attribute) : (setAttribute k v as).map (·.name) =
    as.map (·.name) ++ if (attribute? k as).isSome then [] else [{ base := k }] := by
  unfold attribute?
  induction as with
  | nil => rfl
  | cons a as ih =>
      by_cases ha : a.name.isPlain k
      · simp [setAttribute, ha]
      · simpa [setAttribute, ha] using ih

/-! ## Setting several times -/

/-- The value that is set last stays. -/
theorem setAttribute_setAttribute (as : List Attribute) :
    setAttribute k v (setAttribute k w as) = setAttribute k v as := by
  induction as with
  | nil => simp [setAttribute]
  | cons a as ih => by_cases ha : a.name.isPlain k <;> simp [setAttribute, ha, ih]

/-- Two attributes may be set in either order. -/
theorem setAttribute_comm (h : k ≠ k') (as : List Attribute) :
    (setAttribute k v (setAttribute k' w as)).Perm (setAttribute k' w (setAttribute k v as)) := by
  induction as with
  | nil =>
      simp only [setAttribute, isPlain_plain, beq_eq_false_iff_ne.mpr h,
        beq_eq_false_iff_ne.mpr h.symm, Bool.false_eq_true, ↓reduceIte]
      exact .swap ..
  | cons a as ih =>
      by_cases hk : a.name.isPlain k
      · have hk' : ¬ a.name.isPlain k' := fun hk' => h (Name.eq_of_isPlain hk hk')
        simp [setAttribute, hk, hk']
      · by_cases hk' : a.name.isPlain k'
        · simp [setAttribute, hk, hk']
        · simpa [setAttribute, hk, hk'] using ih

/-- An attribute that is set again need not have been set before, whatever is set in between. -/
theorem setAttribute_between (h : k ≠ k') (as : List Attribute) :
    (setAttribute k v (setAttribute k' w (setAttribute k u as))).Perm
      (setAttribute k v (setAttribute k' w as)) := by
  induction as with
  | nil =>
      simp only [setAttribute, isPlain_plain, beq_self_eq_true, beq_eq_false_iff_ne.mpr h,
        beq_eq_false_iff_ne.mpr h.symm, Bool.false_eq_true, ↓reduceIte]
      exact .swap ..
  | cons a as ih =>
      by_cases hk : a.name.isPlain k
      · have hk' : ¬ a.name.isPlain k' := fun hk' => h (Name.eq_of_isPlain hk hk')
        simp [setAttribute, hk, hk']
      · by_cases hk' : a.name.isPlain k'
        · -- the value in between has found its place, and the others meet behind it
          simp [setAttribute, hk, hk', setAttribute_setAttribute]
        · simpa [setAttribute, hk, hk'] using ih

end Node

end Conformity.Markup

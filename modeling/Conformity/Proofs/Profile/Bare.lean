import Conformity.Proofs.Data.Bare
import Conformity.Proofs.Profile.Record

/-!
# Records without labels

Whether a record fits its form, and the profile that is read from it, do not depend on the labels of
its nodes (`Profile.isRecord_bare`, `Profile.toOption_ofRecord_bare`). The texts in a record that fits
are those of single values, which have no nodes inside.
-/

namespace Conformity

open Data

/-! ## Fitting a form -/

namespace Form

theorem sortMisfits_bare_eq_nil {sorts : List DataSort} {d : Data} :
    sortMisfits sorts d.bare = [] ↔ sortMisfits sorts d = [] := by
  have hsort : DataSort.of? d.bare = DataSort.of? d := by
    cases d with
    | scalar s => cases s <;> rfl
    | _ => rfl
  unfold sortMisfits
  rw [hsort]
  split <;> simp

theorem atPositions_eq_nil {check : Data → List Misfit} {position : Nat} {ds : List Data} :
    atPositions check position ds = [] ↔ ∀ d ∈ ds, check d = [] := by
  induction ds generalizing position with
  | nil => simp [atPositions]
  | cons d ds ih => simp [atPositions, ih]

mutual

theorem misfits_bare_eq_nil :
    ∀ (form : Form) (d : Data), form.misfits d.bare = [] ↔ form.misfits d = []
  | choice texts, d => by
    rw [misfits, misfits, text?_bare]
    split <;> simp
  | ofSort sorts, d => by
    rw [misfits, misfits, sortMisfits_bare_eq_nil]
  | listOf sorts form, d => by
    rw [misfits, misfits, List.append_eq_nil_iff, List.append_eq_nil_iff, sortMisfits_bare_eq_nil,
      atPositions_eq_nil, atPositions_eq_nil, items?_bare]
    cases d.items? with
    | none => rfl
    | some xs => simp [misfits_bare_eq_nil form]
  | tableOf sorts form, d => by
    rw [misfits, misfits, List.append_eq_nil_iff, List.append_eq_nil_iff, sortMisfits_bare_eq_nil,
      entries?_bare]
    cases d.entries? with
    | none => rfl
    | some es =>
        rw [Option.map_some, Option.getD_some, Option.getD_some, bareEntries_eq_map,
          List.flatMap_eq_nil_iff, List.flatMap_eq_nil_iff, List.forall_mem_map]
        simp only [List.map_eq_nil_iff, misfits_bare_eq_nil form]
  | record sorts required fields, d => by
    rw [misfits, misfits, List.append_eq_nil_iff, List.append_eq_nil_iff, sortMisfits_bare_eq_nil,
      entries?_bare]
    cases d.entries? with
    | none => rfl
    | some es => simp [fieldMisfits_bareEntries_eq_nil fields es]

theorem fieldMisfits_bareEntries_eq_nil :
    ∀ (fields : List (String × Form)) (es : List (Scalar × Data)), fieldMisfits fields (bareEntries es) = [] ↔ fieldMisfits fields es = []
  | [], _ => by rw [fieldMisfits, fieldMisfits]
  | (name, form) :: fields, es => by
    rw [fieldMisfits, fieldMisfits, List.append_eq_nil_iff, List.append_eq_nil_iff,
      fieldMisfits_bareEntries_eq_nil fields es, field_bareEntries]
    cases field name es with
    | none => simp
    | some d => simp [misfits_bare_eq_nil form]

end

theorem unfitKeys_bare (form : Form) (d : Data) :
    unfitKeys form d.bare = (unfitKeys form d).map Scalar.bare := by
  unfold unfitKeys
  rw [entries?_bare]
  cases d.entries? with
  | none => rfl
  | some es =>
      rw [Option.map_some, Option.getD_some, Option.getD_some, bareEntries_eq_map, List.filter_map,
        List.map_map, List.map_map]
      refine congrArg _ (List.filter_congr fun e _ => ?_)
      have hfits : (form.misfits e.2.bare).isEmpty = (form.misfits e.2).isEmpty := by
        rw [Bool.eq_iff_iff, List.isEmpty_iff, List.isEmpty_iff, misfits_bare_eq_nil]
      simp [hfits]

end Form

theorem Route.keysAgree_map_bare {keys : List Scalar} :
    KeysAgree (keys.map Scalar.bare) ↔ KeysAgree keys := by
  have htext : ∀ a : Scalar, (∃ s, a.bare = .text s) ↔ ∃ s, a = .text s := by
    intro a
    cases a <;> simp [Scalar.bare]
  have hwhole : ∀ a : Scalar, ((∃ n, a.bare = .int n) ∨ ∃ b, a.bare = .bool b) ↔
      (∃ n, a = .int n) ∨ ∃ b, a = .bool b := by
    intro a
    cases a <;> simp [Scalar.bare]
  unfold KeysAgree
  simp only [List.forall_mem_map, htext, hwhole]

namespace Profile

variable {d : Data}

theorem isRecord_bare : IsRecord d.bare ↔ IsRecord d := Form.misfits_bare_eq_nil profileForm d

theorem canBeTold_bare : CanBeTold d.bare ↔ CanBeTold d := by
  unfold CanBeTold
  rw [entries?_bare]
  cases d.entries? with
  | none => simp
  | some es =>
      simp only [Option.map_some, Option.some.injEq, forall_eq', getD_field_bareEntries,
        Form.unfitKeys_bare, Route.keysAgree_map_bare]

end Profile

/-! ## The parts of a value that fits -/

namespace Form

variable {sorts : List DataSort} {form : Form} {d : Data}

theorem fits_item {xs : List Data} (h : (listOf sorts form).misfits d = [])
    (hxs : d.items? = some xs) : ∀ x ∈ xs, form.misfits x = [] := by
  rw [misfits, List.append_eq_nil_iff, hxs] at h
  exact atPositions_eq_nil.mp h.2

theorem fits_value {es : List (Scalar × Data)} (h : (tableOf sorts form).misfits d = [])
    (hes : d.entries? = some es) : ∀ e ∈ es, form.misfits e.2 = [] := by
  rw [misfits, List.append_eq_nil_iff, hes] at h
  exact fun e he => List.map_eq_nil_iff.mp (List.flatMap_eq_nil_iff.mp h.2 e he)

theorem fits_field {required : List String} {fields : List (String × Form)}
    {es : List (Scalar × Data)} (h : (record sorts required fields).misfits d = [])
    (hes : d.entries? = some es) :
    ∀ e ∈ fields, ∀ v, field e.1 es = some v → e.2.misfits v = [] := by
  intro e he v hv
  by_contra hne
  obtain ⟨m, hm⟩ := List.exists_mem_of_ne_nil _ hne
  have hmem : m.inside (.text e.1) ∈ fieldMisfits fields es :=
    mem_fieldMisfits.mpr ⟨e, he, v, hv, m, hm, rfl⟩
  rw [misfits, hes] at h
  simp only [List.append_eq_nil_iff] at h
  rw [h.2.2] at hmem
  cases hmem

theorem fits_getD {d? : Option Data} (h : ∀ v, d? = some v → form.misfits v = [])
    (hnull : form.misfits .null = []) : form.misfits (d?.getD .null) = [] := by
  cases d? with
  | none => exact hnull
  | some v => exact h v rfl

theorem filterMap_items_bare {α : Type} (f : Data → Option α)
    (h : (listOf sorts form).misfits d = []) (hf : ∀ x, form.misfits x = [] → f x.bare = f x) :
    ((d.bare.items?).getD []).filterMap f = ((d.items?).getD []).filterMap f := by
  rw [items?_bare]
  cases hxs : d.items? with
  | none => rfl
  | some xs =>
      rw [Option.map_some, Option.getD_some, Option.getD_some, List.filterMap_map]
      exact List.filterMap_congr fun x hx => hf x (fits_item h hxs x hx)

/-- A value that is neither a mapping nor a list is a single one. -/
theorem exists_scalar_of_fits (h : (ofSort sorts).misfits d = []) (hobject : .object ∉ sorts)
    (harray : .array ∉ sorts) : ∃ s, d = .scalar s := by
  rw [misfits, sortMisfits] at h
  cases d with
  | scalar s => exact ⟨s, rfl⟩
  | knot l m => cases m <;> simp_all [DataSort.of?]
  | _ => simp_all [DataSort.of?]

end Form

/-! ## What is read -/

open Form

variable {d : Data} {es : Data.Fields} {name : String}

theorem trimmedText?_bare_scalar (s : Scalar) :
    trimmedText? (Data.bare (.scalar s)) = trimmedText? (.scalar s) := by
  unfold trimmedText?
  rw [isNull_bare, bare, plain, plain, Scalar.plain_bare]

theorem fieldText?_bareEntries {sorts : List DataSort}
    (h : ∀ v, field name es = some v → (Form.ofSort sorts).misfits v = [])
    (hobject : .object ∉ sorts := by decide) (harray : .array ∉ sorts := by decide) :
    fieldText? name (bareEntries es) = fieldText? name es := by
  unfold fieldText?
  rw [field_bareEntries]
  cases hv : field name es with
  | none => rfl
  | some v =>
      obtain ⟨s, rfl⟩ := exists_scalar_of_fits (h v hv) hobject harray
      exact trimmedText?_bare_scalar s

/-- A section is read item by item. -/
theorem sectionOf_bare {α : Type} {read : Data.Fields → Option α} {sorts sorts' : List DataSort}
    {form : Form} (h : (Form.tableOf sorts (.listOf sorts' form)).misfits d = [])
    (hread : ∀ item, form.misfits item = [] →
      item.bare.entries?.bind read = item.entries?.bind read) :
    sectionOf read d.bare = sectionOf read d := by
  unfold sectionOf
  rw [entries?_bare]
  cases hes : d.entries? with
  | none => rfl
  | some es =>
      rw [Option.map_some, Option.getD_some, Option.getD_some, bareEntries_eq_map, List.foldl_map]
      refine List.foldl_ext _ _ _ fun t e he => ?_
      have hitems := filterMap_items_bare (fun item => item.entries?.bind read)
        (fits_value h hes e he) hread
      dsimp only
      rw [hitems, Scalar.plain_bare]

theorem Assertion.ofRecord?_bare {item : Data} {sorts : List DataSort}
    (h : (Form.record sorts [] [("context", looseText), ("test", looseText), ("message", looseText),
      ("id", looseText)]).misfits item = []) :
    item.bare.entries?.bind ofRecord? = item.entries?.bind ofRecord? := by
  rw [entries?_bare]
  cases hes : item.entries? with
  | none => rfl
  | some es =>
      have hfields := fits_field h hes
      simp only [List.forall_mem_cons, List.not_mem_nil, false_implies, implies_true, and_true]
        at hfields
      obtain ⟨hcontext, htest, hmessage, hid⟩ := hfields
      rw [Option.map_some, Option.bind_some, Option.bind_some, ofRecord?, ofRecord?,
        fieldText?_bareEntries hcontext, fieldText?_bareEntries htest,
        fieldText?_bareEntries hmessage, fieldText?_bareEntries hid]

theorem Override.ofRecord?_bare {item : Data} {sorts : List DataSort}
    (h : (Form.record sorts [] [("element", looseText), ("minOccurs", looseText),
      ("maxOccurs", looseText)]).misfits item = []) :
    item.bare.entries?.bind ofRecord? = item.entries?.bind ofRecord? := by
  rw [entries?_bare]
  cases hes : item.entries? with
  | none => rfl
  | some es =>
      have hfields := fits_field h hes
      simp only [List.forall_mem_cons, List.not_mem_nil, false_implies, implies_true, and_true]
        at hfields
      obtain ⟨helement, hmin, hmax⟩ := hfields
      rw [Option.map_some, Option.bind_some, Option.bind_some, ofRecord?, ofRecord?,
        fieldText?_bareEntries helement, fieldText?_bareEntries hmin, fieldText?_bareEntries hmax]

namespace SuppressionRule

theorem scopeOf_bare {sorts : List DataSort}
    (h : (Form.listOf sorts (.ofSort [.string, .null])).misfits d = []) :
    scopeOf d.bare = scopeOf d := by
  cases d with
  | list l xs =>
      have htexts : (bareAll xs).filterMap trimmedText? = xs.filterMap trimmedText? := by
        refine filterMap_items_bare trimmedText? h fun x hx => ?_
        obtain ⟨s, rfl⟩ := exists_scalar_of_fits hx (by decide) (by decide)
        exact trimmedText?_bare_scalar s
      unfold scopeOf
      rw [bare]
      dsimp only
      rw [htexts]
  | scalar s => cases s <;> rfl
  | _ => rfl

theorem ofRecord_bare {item : Data} (h : ruleForm.misfits item = []) :
    item.bare.entries?.map ofRecord = item.entries?.map ofRecord := by
  rw [entries?_bare]
  cases hes : item.entries? with
  | none => rfl
  | some es =>
      have hfields := fits_field h hes
      simp only [List.forall_mem_cons, List.not_mem_nil, false_implies, implies_true, and_true]
        at hfields
      obtain ⟨-, hpattern, hscope, hdescription⟩ := hfields
      have hplain : ((field "pattern" es).getD .null).bare.plain =
          ((field "pattern" es).getD .null).plain := by
        cases hv : field "pattern" es with
        | none => rfl
        | some v =>
            obtain ⟨s, rfl⟩ := exists_scalar_of_fits (hpattern v hv) (by decide) (by decide)
            exact Scalar.plain_bare s
      rw [Option.map_some, Option.map_some, Option.map_some, ofRecord, ofRecord,
        fieldText?_bareEntries hdescription, getD_field_bareEntries, getD_field_bareEntries, hplain,
        scopeOf_bare (fits_getD hscope rfl), field_bareEntries, Option.bind_map]
      simp only [Function.comp_def, text?_bare]

end SuppressionRule

namespace Profile

theorem ofFields_bareEntries (h : IsRecord d) (hes : d.entries? = some es) :
    ofFields name (bareEntries es) = ofFields name es := by
  have hfields := fits_field h hes
  simp only [List.forall_mem_cons, List.not_mem_nil, false_implies, implies_true, and_true] at hfields
  obtain ⟨hdescription, hextends, hrules, hoverrides, hassertions⟩ := hfields
  -- the labels inside the parts of a record do not matter, for the parts fit their forms
  have hruled := filterMap_items_bare (fun item => item.entries?.map SuppressionRule.ofRecord)
    (fits_getD hrules rfl) fun _ => SuppressionRule.ofRecord_bare
  have hoverridden := sectionOf_bare (fits_getD hoverrides rfl) fun _ => Override.ofRecord?_bare
  have hasserted := sectionOf_bare (fits_getD hassertions rfl) fun _ => Assertion.ofRecord?_bare
  unfold ofFields Overrides.ofSection Assertions.ofSection
  dsimp only
  rw [fieldText?_bareEntries hdescription, fieldText?_bareEntries hextends, getD_field_bareEntries,
    getD_field_bareEntries, getD_field_bareEntries, hruled, hoverridden, hasserted]

theorem ofRecord_bare_eq_ok_iff {p : Profile} :
    ofRecord name d.bare = .ok p ↔ ofRecord name d = .ok p := by
  rw [ofRecord_eq_ok_iff, ofRecord_eq_ok_iff, isRecord_bare, entries?_bare]
  refine and_congr_right fun h => ?_
  cases hes : d.entries? with
  | none => rfl
  | some es => rw [Option.map_some, Option.getD_some, Option.getD_some, ofFields_bareEntries h hes]

/-- The profile of a record does not depend on labels. -/
theorem toOption_ofRecord_bare (name : String) (d : Data) :
    (ofRecord name d.bare).toOption = (ofRecord name d).toOption := by
  cases hd : ofRecord name d with
  | ok p => rw [ofRecord_bare_eq_ok_iff.mpr hd]
  | error e =>
      cases hbare : ofRecord name d.bare with
      | ok p =>
          rw [ofRecord_bare_eq_ok_iff.mp hbare] at hd
          cases hd
      | error _ => rfl

end Profile

end Conformity

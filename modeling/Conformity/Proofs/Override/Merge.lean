import Conformity.Profile.Inheritance
import Conformity.Proofs.Schema.OverrideKey
import Conformity.Proofs.Table

/-!
# Merged overrides

Of the overrides for an element, an own one counts, and else an inherited one
(`Overridden.last?_mergeOverrides`): the whole override takes the place of the other one, with the
bounds that it sets and those that it does not set.

Of the overrides for one element the one that is written last counts, at the place of the first
(`mergeOverrides_lastCounts`). This tells what merged overrides are (`LastCounts.unique`), so the laws
of merging are found by comparing which override counts: merging may be grouped in any way, and what
is merged already adds nothing. Merged assertions are those of both tables, one behind the other.
-/

namespace Conformity.Overridden

variable {os acc : List Override} {element : String}

/-! ## One override in place of another -/

theorem last?_cons (p : Override) (os : List Override) (element : String) :
    last? (p :: os) element = (last? os element).or (if p.element = element then some p else none) := by
  rw [last?, List.reverse_cons, List.find?_append]
  by_cases hp : p.element = element
  · rw [if_pos hp, List.find?_cons_of_pos (by simp [hp])]
    rfl
  · rw [if_neg hp, List.find?_cons_of_neg (by simp [hp])]
    rfl

/-- Every element has one override at most. -/
def OncePerElement (os : List Override) : Prop := (os.map Override.element).Nodup

theorem elements_replaceOverride (os : List Override) (o : Override) :
    (replaceOverride os o).map Override.element =
      if o.element ∈ os.map Override.element then os.map Override.element
      else os.map Override.element ++ [o.element] := by
  induction os with
  | nil => rfl
  | cons p os ih =>
      unfold replaceOverride
      by_cases hp : p.element = o.element
      · simp [hp]
      · by_cases ho : o.element ∈ os.map Override.element
        · simp [hp, ih, ho]
        · simp [hp, ih, ho, Ne.symm hp]

theorem OncePerElement.replace (h : OncePerElement os) (o : Override) :
    OncePerElement (replaceOverride os o) := by
  unfold OncePerElement
  rw [elements_replaceOverride]
  split
  · exact h
  · next ho =>
    rw [← List.concat_eq_append]
    exact List.Nodup.concat ho h

theorem last?_of_fresh {p : Override} (h : OncePerElement (p :: os)) : last? os p.element = none := by
  refine last?_eq_none.mpr fun o ho heq => ?_
  have hmem : p.element ∈ os.map Override.element := heq ▸ List.mem_map_of_mem ho
  exact (List.nodup_cons.mp h).1 hmem

/-- An override counts in place of the one for its element. -/
theorem last?_replaceOverride (h : OncePerElement os) (o : Override) (element : String) :
    last? (replaceOverride os o) element =
      if o.element = element then some o else last? os element := by
  induction os with
  | nil => rw [replaceOverride, last?_cons]; rfl
  | cons p os ih =>
      have hrest : OncePerElement os := (List.nodup_cons.mp h).2
      unfold replaceOverride
      by_cases hp : p.element = o.element
      · rw [if_pos (beq_iff_eq.mpr hp), last?_cons, last?_cons, hp]
        split
        · next ho => rw [← ho, ← hp, last?_of_fresh h, Option.none_or]
        · rfl
      · rw [if_neg (by simpa using hp), last?_cons, last?_cons, ih hrest]
        split
        · rfl
        · rfl

/-! ## Merging -/

theorem OncePerElement.foldl (h : OncePerElement acc) (os : List Override) :
    OncePerElement (os.foldl replaceOverride acc) := by
  induction os generalizing acc with
  | nil => exact h
  | cons o os ih => exact ih (h.replace o)

/-- Of overrides that are put in place one after another, the last one for an element counts. -/
theorem last?_foldl (h : OncePerElement acc) (os : List Override) (element : String) :
    last? (os.foldl replaceOverride acc) element = (last? os element).or (last? acc element) := by
  induction os generalizing acc with
  | nil => rfl
  | cons o os ih =>
      rw [List.foldl_cons, ih (h.replace o), last?_replaceOverride h, last?_cons, Option.or_assoc]
      split
      · rfl
      · rfl

/-- The overrides of a table for a schema type. -/
def overridesOf (t : Overrides) (type : String) : List Override := (t.get? type).getD []

theorem overridesOf_mergeOverrides {inherited own : Overrides} (hinherited : inherited.names.Nodup)
    (hown : own.names.Nodup) (type : String) : overridesOf (mergeOverrides inherited own) type =
      (overridesOf own type).foldl replaceOverride
        ((overridesOf inherited type).foldl replaceOverride []) := by
  have hnil : ∀ xs : List Override, ([] : List Override).foldl replaceOverride xs = xs := fun _ => rfl
  unfold overridesOf mergeOverrides
  rw [List.foldl_append,
    Table.getD_get?_foldl_alter hown (fun xs ys => ys.foldl replaceOverride xs) hnil,
    Table.getD_get?_foldl_alter hinherited (fun xs ys => ys.foldl replaceOverride xs) hnil]
  rfl

/-- For every type and element, an own override counts, and else an inherited one. -/
theorem last?_mergeOverrides {inherited own : Overrides} (hinherited : inherited.names.Nodup)
    (hown : own.names.Nodup) (type element : String) :
    last? (overridesOf (mergeOverrides inherited own) type) element =
      (last? (overridesOf own type) element).or (last? (overridesOf inherited type) element) := by
  have hempty : OncePerElement [] := List.nodup_nil
  rw [overridesOf_mergeOverrides hinherited hown, last?_foldl (hempty.foldl _), last?_foldl hempty]
  cases last? (overridesOf inherited type) element <;> rfl

end Conformity.Overridden

namespace Conformity

open Overridden

variable {os os' : List Override} {a b c m m' : Overrides}

/-! ## Laws for one type -/

namespace Overridden

theorem elements_foldl (os : List Override) : (os.foldl replaceOverride []).map Override.element =
    (os.map Override.element).eraseDups := by
  induction os using List.reverseRecOn with
  | nil => rfl
  | append_singleton os o ih =>
      rw [List.foldl_append, List.map_append, List.foldl_cons, List.foldl_nil,
        elements_replaceOverride, ih, List.map_singleton]
      by_cases h : o.element ∈ os.map Override.element
      · rw [if_pos (List.mem_eraseDups.mpr h), eraseDups_concat_of_mem h]
      · rw [if_neg (by simpa using h), eraseDups_concat_of_not_mem h]

/-- Where every element has one override, each override counts. -/
theorem last?_of_mem (h : OncePerElement os) {o : Override} (ho : o ∈ os) :
    last? os o.element = some o := by
  induction os with
  | nil => cases ho
  | cons p os ih =>
      rw [last?_cons]
      rcases List.mem_cons.mp ho with rfl | hrest
      · rw [last?_of_fresh h, if_pos rfl, Option.none_or]
      · rw [ih (List.nodup_cons.mp h).2 hrest, Option.some_or]

/-- Overrides are told by their elements in order and by the override of each element. -/
theorem eq_of_elements {f : String → Option Override}
    (helements : os.map Override.element = os'.map Override.element)
    (h : ∀ o ∈ os, f o.element = some o) (h' : ∀ o ∈ os', f o.element = some o) : os = os' := by
  have hvalues : ∀ ps : List Override, (∀ o ∈ ps, f o.element = some o) →
      (ps.map Override.element).map f = ps.map some := by
    intro ps hps
    rw [List.map_map]
    exact List.map_congr_left hps
  apply List.map_injective_iff.mpr fun _ _ => Option.some.inj
  rw [← hvalues os h, helements, hvalues os' h']

end Overridden

/-! ## Laws for all types -/

/-- What two tables of overrides come to, the second one being written later: each type and each
element stands once, where it first came, and the last override of the element counts. -/
structure LastCounts (a b m : Overrides) : Prop where
  types : m.names = (a.names ++ b.names).eraseDups
  elements : ∀ type, (overridesOf m type).map Override.element =
    ((overridesOf a type ++ overridesOf b type).map Override.element).eraseDups
  last : ∀ type, ∀ o ∈ overridesOf m type,
    (last? (overridesOf b type) o.element).or (last? (overridesOf a type) o.element) = some o

theorem names_mergeOverrides (a b : Overrides) :
    (mergeOverrides a b).names = (a.names ++ b.names).eraseDups := by
  rw [mergeOverrides, Table.names_foldl_alter, List.map_append]
  rfl

theorem nodup_names_mergeOverrides (a b : Overrides) : (mergeOverrides a b).names.Nodup := by
  rw [names_mergeOverrides]
  exact nodup_eraseDups _

theorem oncePerElement_mergeOverrides (ha : a.names.Nodup) (hb : b.names.Nodup) (type : String) :
    OncePerElement (overridesOf (mergeOverrides a b) type) := by
  rw [overridesOf_mergeOverrides ha hb]
  have hempty : OncePerElement [] := List.nodup_nil
  exact (hempty.foldl _).foldl _

theorem mergeOverrides_lastCounts (ha : a.names.Nodup) (hb : b.names.Nodup) :
    LastCounts a b (mergeOverrides a b) where
  types := names_mergeOverrides a b
  elements type := by
    rw [overridesOf_mergeOverrides ha hb, ← List.foldl_append, elements_foldl]
  last type o ho := by
    rw [← last?_mergeOverrides ha hb]
    exact last?_of_mem (oncePerElement_mergeOverrides ha hb type) ho

/-- There is one table that two tables come to. -/
theorem LastCounts.unique (h : LastCounts a b m) (h' : LastCounts a b m') : m = m' := by
  have hnames : m.names = m'.names := h.types.trans h'.types.symm
  have hnodup : m.names.Nodup := h.types ▸ nodup_eraseDups _
  refine Table.eq_of_getD_eq hnodup hnames fun type => ?_
  show overridesOf m type = overridesOf m' type
  exact eq_of_elements (f := fun element =>
    (last? (overridesOf b type) element).or (last? (overridesOf a type) element))
    ((h.elements type).trans (h'.elements type).symm) (h.last type) (h'.last type)

theorem mergeOverrides_eq (ha : a.names.Nodup) (hb : b.names.Nodup) (h : LastCounts a b m) :
    mergeOverrides a b = m := (mergeOverrides_lastCounts ha hb).unique h

/-! ## Merging several tables -/

theorem mergeOverrides_assoc (ha : a.names.Nodup) (hb : b.names.Nodup) (hc : c.names.Nodup) :
    mergeOverrides (mergeOverrides a b) c = mergeOverrides a (mergeOverrides b c) := by
  have hab := nodup_names_mergeOverrides a b
  have hbc := nodup_names_mergeOverrides b c
  have left := mergeOverrides_lastCounts ha hb
  have right := mergeOverrides_lastCounts hb hc
  have whole := mergeOverrides_lastCounts ha hbc
  refine mergeOverrides_eq hab hc ⟨?_, fun type => ?_, fun type o ho => ?_⟩
  · rw [whole.types, left.types, right.types, eraseDups_append_eraseDups, eraseDups_eraseDups_append,
      List.append_assoc]
  · rw [whole.elements, List.map_append, List.map_append, left.elements, right.elements,
      eraseDups_append_eraseDups, eraseDups_eraseDups_append]
    simp
  · -- of the three tables, the last one with an override for the element decides
    rw [last?_mergeOverrides ha hb, ← Option.or_assoc, ← last?_mergeOverrides hb hc]
    exact whole.last type o ho

/-- A table adds nothing to one that has its types, its elements and its overrides already. -/
theorem mergeOverrides_of_subset {n : Overrides} (hm : m.names.Nodup)
    (honce : ∀ type, OncePerElement (overridesOf m type)) (hn : n.names.Nodup)
    (htypes : n.names ⊆ m.names)
    (helements : ∀ type, (overridesOf n type).map Override.element ⊆
      (overridesOf m type).map Override.element)
    (hlast : ∀ type, ∀ o ∈ overridesOf m type, ∀ o',
      last? (overridesOf n type) o.element = some o' → o' = o) : mergeOverrides m n = m := by
  refine mergeOverrides_eq hm hn ⟨?_, fun type => ?_, fun type o ho => ?_⟩
  · rw [eraseDups_append_of_subset htypes, eraseDups_of_nodup hm]
  · rw [List.map_append, eraseDups_append_of_subset (helements type),
      eraseDups_of_nodup (honce type)]
  · rw [last?_of_mem (honce type) ho]
    cases hnew : last? (overridesOf n type) o.element with
    | none => rfl
    | some o' => rw [hlast type o ho o' hnew, Option.some_or]

/-- To merge what was merged once more adds nothing. -/
theorem mergeOverrides_self (ha : a.names.Nodup) (hb : b.names.Nodup) :
    mergeOverrides (mergeOverrides a b) (mergeOverrides a b) = mergeOverrides a b := by
  have hm := nodup_names_mergeOverrides a b
  have honce := oncePerElement_mergeOverrides ha hb
  refine mergeOverrides_of_subset hm honce hm (List.Subset.refl _) (fun _ => List.Subset.refl _) ?_
  intro type o ho o' hlast
  rw [last?_of_mem (honce type) ho] at hlast
  exact (Option.some.inj hlast).symm

/-- To merge the later table once more adds nothing. -/
theorem mergeOverrides_later (ha : a.names.Nodup) (hb : b.names.Nodup) :
    mergeOverrides (mergeOverrides a b) b = mergeOverrides a b := by
  have merged := mergeOverrides_lastCounts ha hb
  refine mergeOverrides_of_subset (nodup_names_mergeOverrides a b)
    (oncePerElement_mergeOverrides ha hb) hb ?_ (fun type => ?_) ?_
  · rw [merged.types]
    exact subset_eraseDups_append _ _
  · rw [merged.elements, List.map_append]
    exact subset_eraseDups_append _ _
  · intro type o ho o' hlast
    have hcounts := merged.last type o ho
    rw [hlast, Option.some_or] at hcounts
    exact Option.some.inj hcounts

/-! ## Assertions by type -/

/-- The assertions of a table for a rule-set type. -/
def assertionsOf (t : Assertions) (type : String) : List Assertion := (t.get? type).getD []

/-- What two tables of assertions come to: the assertions of both for each type. -/
structure Joins (x y z : Assertions) : Prop where
  types : z.names = (x.names ++ y.names).eraseDups
  assertions : ∀ type, assertionsOf z type = assertionsOf x type ++ assertionsOf y type

variable {x y z z' : Assertions}

theorem mergeAssertions_joins (hx : x.names.Nodup) (hy : y.names.Nodup) :
    Joins x y (mergeAssertions x y) where
  types := by
    rw [mergeAssertions, Table.names_foldl_alter, List.map_append]
    rfl
  assertions type := by
    unfold assertionsOf mergeAssertions
    rw [List.foldl_append, Table.getD_get?_foldl_append hy, Table.getD_get?_foldl_append hx]
    rfl

theorem Joins.nodup (h : Joins x y z) : z.names.Nodup := h.types ▸ nodup_eraseDups _

theorem Joins.unique (h : Joins x y z) (h' : Joins x y z') : z = z' := by
  refine Table.eq_of_getD_eq h.nodup (h.types.trans h'.types.symm) fun type => ?_
  exact (h.assertions type).trans (h'.assertions type).symm

theorem mergeAssertions_assoc (hx : x.names.Nodup) (hy : y.names.Nodup) (hz : z.names.Nodup) :
    mergeAssertions (mergeAssertions x y) z = mergeAssertions x (mergeAssertions y z) := by
  have left := mergeAssertions_joins hx hy
  have right := mergeAssertions_joins hy hz
  have whole := mergeAssertions_joins hx right.nodup
  refine (mergeAssertions_joins left.nodup hz).unique ⟨?_, fun type => ?_⟩
  · rw [whole.types, left.types, right.types, eraseDups_append_eraseDups, eraseDups_eraseDups_append,
      List.append_assoc]
  · rw [whole.assertions, left.assertions, right.assertions, List.append_assoc]

/-! ## Both -/

/-- The laws of merging. Of tables of overrides, each type and each element stays where it first came,
and the last override of the element counts; of tables of assertions, all stay. Both may be merged in
groups, and overrides that are merged already add nothing. -/
theorem merging_laws (ha : a.names.Nodup) (hb : b.names.Nodup) (hc : c.names.Nodup)
    (hx : x.names.Nodup) (hy : y.names.Nodup) (hz : z.names.Nodup) :
    (LastCounts a b (mergeOverrides a b) ∧
      mergeOverrides (mergeOverrides a b) c = mergeOverrides a (mergeOverrides b c) ∧
      mergeOverrides (mergeOverrides a b) (mergeOverrides a b) = mergeOverrides a b ∧
      mergeOverrides (mergeOverrides a b) b = mergeOverrides a b) ∧
    Joins x y (mergeAssertions x y) ∧
      mergeAssertions (mergeAssertions x y) z = mergeAssertions x (mergeAssertions y z) := by
  refine ⟨⟨?_, ?_, ?_, ?_⟩, ?_, ?_⟩
  · exact mergeOverrides_lastCounts ha hb
  · exact mergeOverrides_assoc ha hb hc
  · exact mergeOverrides_self ha hb
  · exact mergeOverrides_later ha hb
  · exact mergeAssertions_joins hx hy
  · exact mergeAssertions_assoc hx hy hz

/-- Overrides of which two are for one element. -/
def signatureTwice : Overrides :=
  [("INVOICE", [⟨"cac:Signature", some "0", none⟩, ⟨"cac:Note", none, some "2"⟩,
    ⟨"cac:Signature", some "1", none⟩])]

/-- Overrides for another type, and for one of these elements. -/
def noteAgain : Overrides :=
  [("DESPATCH", [⟨"cac:Note", some "1", none⟩]), ("INVOICE", [⟨"cac:Note", none, some "5"⟩])]

/-- A check for a rule-set type. -/
def idCheck : Assertions := [("UBLTR_MAIN", [{ context := "/*", test := "ID", message := "no id" }])]

/-- The laws for these tables, and what the two of overrides come to. -/
theorem merging_laws_of_signature :
    (signatureTwice.names.Nodup ∧ noteAgain.names.Nodup ∧ idCheck.names.Nodup) ∧
    ((LastCounts signatureTwice noteAgain (mergeOverrides signatureTwice noteAgain) ∧
      mergeOverrides (mergeOverrides signatureTwice noteAgain) signatureTwice =
        mergeOverrides signatureTwice (mergeOverrides noteAgain signatureTwice) ∧
      mergeOverrides (mergeOverrides signatureTwice noteAgain)
        (mergeOverrides signatureTwice noteAgain) = mergeOverrides signatureTwice noteAgain ∧
      mergeOverrides (mergeOverrides signatureTwice noteAgain) noteAgain =
        mergeOverrides signatureTwice noteAgain) ∧
    Joins idCheck idCheck (mergeAssertions idCheck idCheck) ∧
      mergeAssertions (mergeAssertions idCheck idCheck) idCheck =
        mergeAssertions idCheck (mergeAssertions idCheck idCheck)) ∧
    mergeOverrides signatureTwice noteAgain =
      [("INVOICE", [⟨"cac:Signature", some "1", none⟩, ⟨"cac:Note", none, some "5"⟩]),
        ("DESPATCH", [⟨"cac:Note", some "1", none⟩])] := by
  have hsignature : signatureTwice.names.Nodup := by decide
  have hnote : noteAgain.names.Nodup := by decide
  have hcheck : idCheck.names.Nodup := by decide
  exact ⟨⟨hsignature, hnote, hcheck⟩,
    merging_laws hsignature hnote hsignature hcheck hcheck hcheck, by decide⟩

end Conformity

import Conformity.Proofs.Profile.Globals
import Conformity.Proofs.Text.Order

/-!
# Profiles read from their own records

The record of a profile is always read, and gives the profile back but for blanks around its texts
and for what has nothing to say (`Profile.ofRecord_record`). What came back once comes back unchanged
(`Profile.saved_saved`), since it is trimmed in all its parts (`Profile.isTrimmed_saved`).
-/

namespace Conformity

open Text (trim isBlankText)

/-! ## What comes back -/

/-- A text as it comes back if only texts that are not blank are written. -/
def savedText? (s : Option String) : Option String := (s.filter fun s => !isBlankText s).map trim

/-- A scope as it comes back. -/
def savedScope (scope : List String) : List String :=
  Text.sortedSet ((scope.map trim).filter (!·.isEmpty))

/-- A rule as it comes back. -/
def SuppressionRule.saved (r : SuppressionRule) : SuppressionRule :=
  { r with scope := savedScope r.scope, description := savedText? r.description }

/-- An override as it comes back, if it has an element. -/
def Override.saved? (o : Override) : Option Override :=
  if isBlankText o.element then none
  else some ⟨trim o.element, o.minOccurs.map trim, o.maxOccurs.map trim⟩

/-- A table with the items of one more type, if there are any. -/
def withItems {α : Type} (t : Table (List α)) (name : String) (items : List α) : Table (List α) :=
  if items.isEmpty then t else t.set (trim name) items

/-- A section of lists by type as it comes back, `saved?` telling what comes back of an item. -/
def savedSection {α : Type} (saved? : α → Option α) (t : Table (List α)) : Table (List α) :=
  t.foldl (fun t e => withItems t e.1 (e.2.filterMap saved?)) []

/-- A profile as it comes back from its record. -/
def Profile.saved (p : Profile) : Profile where
  name := p.name
  description := trim p.description
  parent := savedText? p.parent
  rules := p.rules.map SuppressionRule.saved
  overrides := savedSection Override.saved? p.overrides
  assertions := savedSection Assertion.saved? p.assertions

/-! ## Trimmed profiles -/

/-- A trimmed text that is not blank. -/
def Text.IsFilled (s : String) : Prop := Text.IsTrimmed s ∧ ¬ isBlankText s

instance (s : String) : Decidable (Text.IsFilled s) :=
  inferInstanceAs (Decidable (Text.IsTrimmed s ∧ ¬ isBlankText s))

/-- Types and description of a rule are trimmed, and none is blank. -/
structure SuppressionRule.IsTrimmed (r : SuppressionRule) : Prop where
  scope : ∀ t ∈ r.scope, Text.IsFilled t
  description : ∀ s ∈ r.description, Text.IsFilled s

/-- All texts of an override are trimmed, and it has an element. -/
structure Override.IsTrimmed (o : Override) : Prop where
  element : Text.IsFilled o.element
  minOccurs : ∀ s ∈ o.minOccurs, Text.IsTrimmed s
  maxOccurs : ∀ s ∈ o.maxOccurs, Text.IsTrimmed s

/-- All texts of an assertion are trimmed; it is complete, and its id is not blank. -/
structure Assertion.IsTrimmed (a : Assertion) : Prop where
  complete : a.isComplete
  context : ∀ s ∈ a.context, Text.IsTrimmed s
  test : ∀ s ∈ a.test, Text.IsTrimmed s
  message : ∀ s ∈ a.message, Text.IsTrimmed s
  id : ∀ s ∈ a.id, Text.IsFilled s

/-- All types of a section are trimmed and have items, each of which is trimmed. -/
def IsTrimmedSection {α : Type} (isTrimmed : α → Prop) (t : Table (List α)) : Prop :=
  ∀ e ∈ t, Text.IsTrimmed e.1 ∧ e.2 ≠ [] ∧ ∀ a ∈ e.2, isTrimmed a

namespace Profile

/-- All parts of a profile are trimmed. -/
structure IsTrimmed (p : Profile) : Prop where
  description : Text.IsTrimmed p.description
  parent : ∀ s ∈ p.parent, Text.IsFilled s
  rules : ∀ r ∈ p.rules, r.IsTrimmed
  overrides : IsTrimmedSection Override.IsTrimmed p.overrides
  assertions : IsTrimmedSection Assertion.IsTrimmed p.assertions

/-- Each type has one list of overrides and one of assertions, and each scope is a set. -/
structure IsLawful (p : Profile) : Prop where
  overrides : p.overrides.names.Nodup
  assertions : p.assertions.names.Nodup
  scopes : ∀ r ∈ p.rules, r.scope.Pairwise (· < ·)

end Profile

/-! ## Fields that may be left out -/

namespace Data

theorem field_append (key : String) (es fs : Fields) :
    field key (es ++ fs) = (field key es).or (field key fs) := by
  induction es with
  | nil => rfl
  | cons e es ih =>
      rw [List.cons_append, field_cons, field_cons, ih]
      split <;> rfl

/-- A field that is written under a condition. -/
theorem field_when (key name : String) (c : Prop) [Decidable c] (d : Data) :
    field key ((if c then [(name, d)] else []).map fun e => (Scalar.text e.1, e.2)) =
      if c ∧ name = key then some d else none := by
  by_cases hc : c
  · simp only [hc, ↓reduceIte, true_and, List.map_cons, List.map_nil, field_cons, Scalar.text.injEq]
    rfl
  · simp only [hc, ↓reduceIte, false_and, List.map_nil]
    rfl

/-- A field that is left out under a condition. -/
theorem field_unless (key name : String) (c : Prop) [Decidable c] (d : Data) :
    field key ((if c then [] else [(name, d)]).map fun e => (Scalar.text e.1, e.2)) =
      if ¬ c ∧ name = key then some d else none := by
  rw [← field_when, ite_not]

end Data

open Data Form

namespace Form

variable {required : List String} {fields : List (String × Form)} {label : Nat} {es : Data.Fields}

theorem fieldMisfits_eq_nil :
    fieldMisfits fields es = [] ↔ ∀ f ∈ fields, ∀ d, field f.1 es = some d → f.2.misfits d = [] := by
  induction fields with
  | nil => simp [fieldMisfits]
  | cons f fields ih =>
      rw [fieldMisfits, List.append_eq_nil_iff, ih, List.forall_mem_cons]
      refine and_congr_left fun _ => ?_
      cases field f.1 es <;> simp

/-- A mapping fits the form of a record exactly if nothing is missing and every field fits. -/
theorem misfits_map_eq_nil {sorts : List DataSort} (hsorts : .object ∈ sorts) :
    (record sorts required fields).misfits (.map label es) = [] ↔
      (∀ name ∈ required, (field name es).isSome) ∧
        ∀ f ∈ fields, ∀ d, field f.1 es = some d → f.2.misfits d = [] := by
  have hsort : sortMisfits sorts (.map label es) = [] := by
    simp [sortMisfits, DataSort.of?, hsorts]
  rw [misfits, hsort, ← fieldMisfits_eq_nil]
  simp [entries?, Option.isSome_iff_ne_none]

end Form

/-- A text that is written only if it is not blank. -/
theorem bind_trimmedText?_when (s : Option String) :
    (if hasText s then some (Data.ofText? s) else none).bind trimmedText? = savedText? s := by
  cases s with
  | none => rfl
  | some s =>
      by_cases hblank : isBlankText s = true
      · simp [hasText, hblank, savedText?]
      · simp [hasText, hblank, savedText?, Option.filter, Assertion.trimmedText?_ofText?]

theorem Text.IsFilled.ne_empty {s : String} (h : Text.IsFilled s) : s.isEmpty = false := by
  rw [h.1.isEmpty]
  exact Bool.eq_false_of_not_eq_true h.2

theorem isFilled_trim {s : String} (h : ¬ isBlankText s) : Text.IsFilled (trim s) :=
  ⟨Text.isTrimmed_trim s, by rwa [Text.isBlankText_trim]⟩

theorem isFilled_of_mem_savedText? {s : Option String} {t : String} (h : t ∈ savedText? s) :
    Text.IsFilled t := by
  obtain ⟨u, hu, rfl⟩ := Option.map_eq_some_iff.mp h
  exact isFilled_trim (by simpa using (Option.filter_eq_some_iff.mp hu).2)

/-! ## Rules -/

namespace SuppressionRule

variable (r : SuppressionRule)

/-- The fields of the record of a rule. -/
theorem field_record : ∃ fields, r.record = .map 0 fields ∧
    field "match" fields = some (.text r.mode.name) ∧
    field "pattern" fields = some (.text r.pattern) ∧
    field "scope" fields = (if ¬ r.isGlobal then some (Data.texts r.scope) else none) ∧
    field "description" fields =
      if hasText r.description then some (Data.ofText? r.description) else none := by
  refine ⟨_, rfl, ?_, ?_, ?_, ?_⟩ <;>
    simp [List.map_append, field_append, field_when, field_unless, field_cons]

theorem scopeOf_texts (scope : List String) : scopeOf (Data.texts scope) = savedScope scope := by
  have htexts : (scope.map Data.text).filterMap trimmedText? = scope.map trim := by
    rw [List.filterMap_map]
    exact List.filterMap_eq_map (f := trim) ▸ rfl
  show Text.sortedSet (((scope.map Data.text).filterMap trimmedText?).filter _) = _
  rw [htexts]
  rfl

theorem ofName?_name (m : MatchMode) : MatchMode.ofName? m.name = some m := by
  cases m <;> decide

/-- A rule is read as it was written, but for blanks. -/
theorem ofRecord_record : r.record.entries?.map ofRecord = some r.saved := by
  obtain ⟨fields, hrecord, hmatch, hpattern, hscope, hdescription⟩ := r.field_record
  have hscoped : scopeOf ((field "scope" fields).getD .null) = savedScope r.scope := by
    rw [hscope]
    by_cases hglobal : r.isGlobal = true
    · have hnil : r.scope = [] := List.isEmpty_iff.mp hglobal
      rw [if_neg (not_not_intro hglobal), hnil]
      rfl
    · rw [if_pos hglobal]
      exact scopeOf_texts r.scope
  have hdescribed : fieldText? "description" fields = savedText? r.description := by
    rw [fieldText?, hdescription, bind_trimmedText?_when]
  rw [hrecord]
  show some (ofRecord fields) = some r.saved
  unfold ofRecord saved
  rw [hmatch, hpattern, hscoped, hdescribed]
  simp [Data.text, text?, ofName?_name, plain, Scalar.plain]

theorem fits_record : ruleForm.misfits r.record = [] := by
  obtain ⟨fields, hrecord, hmatch, hpattern, hscope, hdescription⟩ := r.field_record
  rw [hrecord, ruleForm, misfits_map_eq_nil (by decide)]
  simp only [List.forall_mem_cons, List.not_mem_nil, false_implies, implies_true, and_true, hmatch,
    hpattern, hscope, hdescription, Option.isSome_some, Option.ite_none_right_eq_some,
    Option.some.injEq]
  refine ⟨trivial, ?_, ?_, ?_, ?_⟩
  · rintro _ rfl
    cases r.mode <;> rfl
  · rintro _ rfl
    rfl
  · rintro _ ⟨-, rfl⟩
    refine (misfits_ofList_eq_nil (by decide)).mpr fun d hd => ?_
    obtain ⟨s, -, rfl⟩ := List.mem_map.mp hd
    rfl
  · rintro _ ⟨-, rfl⟩
    exact fits_ofText? _

end SuppressionRule

/-! ## Overrides -/

namespace Override

variable (o : Override)

/-- The fields of the record of an override. -/
theorem field_record : ∃ fields, o.record = .map 0 fields ∧
    field "element" fields = some (.text o.element) ∧
    field "minOccurs" fields = o.minOccurs.map Data.text ∧
    field "maxOccurs" fields = o.maxOccurs.map Data.text := by
  refine ⟨_, rfl, ?_, ?_, ?_⟩ <;>
    cases o.minOccurs <;> cases o.maxOccurs <;>
      simp [field_cons] <;> rfl

/-- An override is read as it was written, but for blanks, if it has an element. -/
theorem ofRecord?_record : o.record.entries?.bind ofRecord? = o.saved? := by
  obtain ⟨fields, hrecord, helement, hmin, hmax⟩ := o.field_record
  have htext : ∀ s : Option String, (s.map Data.text).bind trimmedText? = s.map trim := by
    intro s
    cases s <;> rfl
  have hbounds : fieldText? "minOccurs" fields = o.minOccurs.map trim ∧
      fieldText? "maxOccurs" fields = o.maxOccurs.map trim := by
    rw [fieldText?, fieldText?, hmin, hmax]
    exact ⟨htext _, htext _⟩
  have hnamed : fieldText? "element" fields = some (trim o.element) := by
    rw [fieldText?, helement]
    rfl
  rw [hrecord]
  show ofRecord? fields = o.saved?
  unfold ofRecord? saved?
  rw [hnamed, hbounds.1, hbounds.2]
  simp only [Text.isEmpty_trim]

theorem fits_record : (Form.record [.object] []
    [("element", looseText), ("minOccurs", looseText), ("maxOccurs", looseText)]).misfits
      o.record = [] := by
  obtain ⟨fields, hrecord, helement, hmin, hmax⟩ := o.field_record
  rw [hrecord, misfits_map_eq_nil (by decide)]
  simp only [List.forall_mem_cons, List.not_mem_nil, false_implies, implies_true, and_true, true_and,
    helement, hmin, hmax, Option.map_eq_some_iff, Option.some.injEq]
  refine ⟨?_, ?_, ?_⟩
  · rintro _ rfl
    rfl
  · rintro _ ⟨s, -, rfl⟩
    rfl
  · rintro _ ⟨s, -, rfl⟩
    rfl

end Override

/-! ## Sections -/

section Sections

variable {α : Type} {record : α → Data}

/-- A section is read item by item as it was written. -/
theorem sectionOf_sectionRecord {read : Data.Fields → Option α} {saved? : α → Option α}
    (hitem : ∀ a, (record a).entries?.bind read = saved? a) (t : Table (List α)) :
    sectionOf read (Profile.sectionRecord record t) = savedSection saved? t := by
  have hitems : ∀ items : List α, ((ofList (items.map record)).items?.getD []).filterMap
      (fun item => item.entries?.bind read) = items.filterMap saved? := by
    intro items
    show (items.map record).filterMap _ = _
    rw [List.filterMap_map]
    exact List.filterMap_congr fun a _ => hitem a
  show ((t.map _).map _).foldl _ [] = t.foldl _ []
  rw [List.map_map, List.foldl_map]
  simp only [Function.comp_apply, hitems]
  rfl

end Sections

/-! ## Profiles -/

namespace Profile

variable (p : Profile)

/-- The fields of the record of a profile. -/
theorem field_record : ∃ fields, p.record = .map 0 fields ∧
    field "description" fields =
      (if hasText (some p.description) then some (.text p.description) else none) ∧
    field "extends" fields = (if hasText p.parent then some (Data.ofText? p.parent) else none) ∧
    field "suppressions" fields =
      (if ¬ p.rules.isEmpty then some (ofList (p.rules.map SuppressionRule.record)) else none) ∧
    field overridesKey fields =
      (if ¬ p.overrides.isEmpty then some (sectionRecord Override.record p.overrides) else none) ∧
    field assertionsKey fields =
      if ¬ p.assertions.isEmpty then some (sectionRecord Assertion.record p.assertions)
      else none := by
  refine ⟨_, rfl, ?_, ?_, ?_, ?_, ?_⟩ <;>
    simp [List.map_append, field_append, field_when, field_unless, overridesKey, assertionsKey]

theorem isRecord_record : IsRecord p.record := by
  obtain ⟨fields, hrecord, hdescription, hparent, hrules, hoverrides, hassertions⟩ := p.field_record
  rw [IsRecord, hrecord, profileForm, misfits_map_eq_nil (by decide)]
  simp only [List.forall_mem_cons, List.not_mem_nil, false_implies, implies_true, and_true, true_and,
    hdescription, hparent, hrules, hoverrides, hassertions, Option.ite_none_right_eq_some,
    Option.some.injEq]
  refine ⟨?_, ?_, ?_, ?_, ?_⟩
  · rintro _ ⟨-, rfl⟩
    rfl
  · rintro _ ⟨-, rfl⟩
    cases p.parent <;> rfl
  · rintro _ ⟨-, rfl⟩
    refine (misfits_ofList_eq_nil (by decide)).mpr fun d hd => ?_
    obtain ⟨r, -, rfl⟩ := List.mem_map.mp hd
    exact r.fits_record
  · rintro _ ⟨-, rfl⟩
    exact fits_sectionRecord Override.fits_record _
  · rintro _ ⟨-, rfl⟩
    exact fits_sectionRecord Assertion.fits_record _

/-- What is read of a field that is left out if there is nothing to write. -/
theorem getD_unless_isEmpty {α β : Type} (items : List α) (read : Data → List β) (d : Data)
    (hnull : read .null = []) (hempty : items = [] → read d = []) :
    read ((if ¬ items.isEmpty then some d else none).getD .null) = read d := by
  by_cases h : items.isEmpty = true
  · rw [if_neg (not_not_intro h), Option.getD_none, hnull, hempty (List.isEmpty_iff.mp h)]
  · rw [if_pos h, Option.getD_some]

/-- The record of a profile is read, and gives the profile back as it is saved. -/
theorem ofRecord_record : ofRecord p.name p.record = .ok p.saved := by
  obtain ⟨fields, hrecord, hdescription, hparent, hrules, hoverrides, hassertions⟩ := p.field_record
  refine ofRecord_eq_ok_iff.mpr ⟨p.isRecord_record, ?_⟩
  have hdescribed : (fieldText? "description" fields).getD "" = trim p.description := by
    rw [fieldText?, hdescription]
    by_cases hblank : isBlankText p.description = true
    · have hempty : (trim p.description).isEmpty = true := by rw [Text.isEmpty_trim, hblank]
      rw [if_neg (by simp [hasText, hblank]), String.isEmpty_iff.mp hempty]
      rfl
    · rw [if_pos (by simp [hasText, hblank])]
      rfl
  have hextends : (fieldText? "extends" fields).filter (!·.isEmpty) = savedText? p.parent := by
    rw [fieldText?, hparent, bind_trimmedText?_when]
    cases hs : savedText? p.parent with
    | none => rfl
    | some s => simp [Option.filter, (isFilled_of_mem_savedText? hs).ne_empty]
  have hruled : (((field "suppressions" fields).getD .null).items?.getD []).filterMap
      (fun item => item.entries?.map SuppressionRule.ofRecord) =
        p.rules.map SuppressionRule.saved := by
    rw [hrules, getD_unless_isEmpty p.rules
      (fun d => (d.items?.getD []).filterMap fun item => item.entries?.map SuppressionRule.ofRecord)
      _ rfl (fun hnil => by rw [hnil]; rfl)]
    show (p.rules.map SuppressionRule.record).filterMap _ = _
    rw [List.filterMap_map, List.filterMap_congr fun r _ => r.ofRecord_record, List.filterMap_eq_map']
  have hoverridden : Overrides.ofSection ((field overridesKey fields).getD .null) =
      savedSection Override.saved? p.overrides := by
    rw [hoverrides, getD_unless_isEmpty p.overrides Overrides.ofSection _ rfl
      (fun hnil => by rw [hnil]; rfl)]
    exact sectionOf_sectionRecord Override.ofRecord?_record _
  have hasserted : Assertions.ofSection ((field assertionsKey fields).getD .null) =
      savedSection Assertion.saved? p.assertions := by
    rw [hassertions, getD_unless_isEmpty p.assertions Assertions.ofSection _ rfl
      (fun hnil => by rw [hnil]; rfl)]
    exact sectionOf_sectionRecord Assertion.ofRecord?_record _
  rw [hrecord]
  show ofFields p.name fields = p.saved
  unfold ofFields saved
  dsimp only
  rw [hdescribed, hextends, hruled, hoverridden, hasserted]

end Profile

/-! ## What came back is trimmed -/

theorem savedText?_eq_self {s : Option String} (h : ∀ t ∈ s, Text.IsFilled t) : savedText? s = s := by
  cases s with
  | none => rfl
  | some s =>
      obtain ⟨htrimmed, hblank⟩ := h s rfl
      simp [savedText?, Option.filter, hblank, Text.trim_eq_self_iff.mpr htrimmed]

theorem map_trim_eq_self {s : Option String} (h : ∀ t ∈ s, Text.IsTrimmed t) : s.map trim = s := by
  cases s with
  | none => rfl
  | some s => rw [Option.map_some, Text.trim_eq_self_iff.mpr (h s rfl)]

theorem isTrimmed_of_mem_map_trim {s : Option String} {t : String} (h : t ∈ s.map trim) :
    Text.IsTrimmed t := by
  obtain ⟨u, -, rfl⟩ := Option.map_eq_some_iff.mp h
  exact Text.isTrimmed_trim u

/-- In a scope are the types that are not blank, trimmed. -/
theorem mem_savedScope {scope : List String} {t : String} :
    t ∈ savedScope scope ↔ ∃ s ∈ scope, ¬ isBlankText s ∧ trim s = t := by
  rw [savedScope, Text.mem_sortedSet, List.mem_filter, List.mem_map]
  constructor
  · rintro ⟨⟨s, hs, rfl⟩, hblank⟩
    exact ⟨s, hs, by simpa using hblank, rfl⟩
  · rintro ⟨s, hs, hblank, rfl⟩
    exact ⟨⟨s, hs, rfl⟩, by simpa using hblank⟩

theorem savedScope_eq_self {scope : List String} (hset : scope.Pairwise (· < ·))
    (h : ∀ t ∈ scope, Text.IsFilled t) : savedScope scope = scope := by
  have hmap : scope.map trim = scope := by
    conv_rhs => rw [← List.map_id scope]
    exact List.map_congr_left fun t ht => Text.trim_eq_self_iff.mpr (h t ht).1
  have hfilter : scope.filter (!·.isEmpty) = scope :=
    List.filter_eq_self.mpr fun t ht => by simp [(h t ht).ne_empty]
  rw [savedScope, hmap, hfilter, Text.sortedSet_eq_self_iff.mpr hset]

namespace SuppressionRule

theorem isTrimmed_saved (r : SuppressionRule) : r.saved.IsTrimmed where
  scope := fun t ht => by
    obtain ⟨s, -, hblank, rfl⟩ := mem_savedScope.mp ht
    exact isFilled_trim hblank
  description := fun s hs => isFilled_of_mem_savedText? hs

theorem IsTrimmed.saved_eq {r : SuppressionRule} (h : r.IsTrimmed)
    (hset : r.scope.Pairwise (· < ·)) : r.saved = r := by
  rw [saved, savedScope_eq_self hset h.scope, savedText?_eq_self h.description]

end SuppressionRule

namespace Override

theorem isTrimmed_of_saved? {o o' : Override} (h : o.saved? = some o') : o'.IsTrimmed := by
  unfold saved? at h
  split at h
  · cases h
  · next hblank =>
    cases h
    exact ⟨isFilled_trim hblank, fun s hs => isTrimmed_of_mem_map_trim hs,
      fun s hs => isTrimmed_of_mem_map_trim hs⟩

theorem IsTrimmed.saved?_eq {o : Override} (h : o.IsTrimmed) : o.saved? = some o := by
  rw [saved?, if_neg h.element.2, Text.trim_eq_self_iff.mpr h.element.1,
    map_trim_eq_self h.minOccurs, map_trim_eq_self h.maxOccurs]

end Override

namespace Assertion

theorem isTrimmed_of_saved? {a a' : Assertion} (h : a.saved? = some a') : a'.IsTrimmed := by
  unfold saved? at h
  split at h
  · next hcomplete =>
    cases h
    refine ⟨?_, fun s hs => isTrimmed_of_mem_map_trim hs, fun s hs => isTrimmed_of_mem_map_trim hs,
      fun s hs => isTrimmed_of_mem_map_trim hs, fun s hs => isFilled_of_mem_savedText? hs⟩
    simpa [isComplete, hasText_map_trim] using hcomplete
  · cases h

theorem IsTrimmed.saved?_eq {a : Assertion} (h : a.IsTrimmed) : a.saved? = some a := by
  have hid : (a.id.filter fun s => !isBlankText s).map trim = a.id := savedText?_eq_self h.id
  rw [saved?, if_pos h.complete, map_trim_eq_self h.context, map_trim_eq_self h.test,
    map_trim_eq_self h.message, hid]

end Assertion

/-! ## Saved sections -/

namespace Table

variable {α : Type} {t : Table α} {name : String} {v : α}

theorem set_of_not_mem (h : name ∉ t.names) : t.set name v = t ++ [(name, v)] := by
  unfold set
  induction t with
  | nil => rfl
  | cons e t ih =>
      rw [names_cons, List.mem_cons, not_or] at h
      rw [alter, if_neg (by simpa using Ne.symm h.1), ih h.2, List.cons_append]

theorem eq_or_mem_of_mem_set {e : String × α} (h : e ∈ t.set name v) : e = (name, v) ∨ e ∈ t := by
  unfold set at h
  induction t with
  | nil => exact .inl (List.mem_singleton.mp h)
  | cons e' t ih =>
      rw [alter] at h
      split at h
      · next heq =>
        rcases List.mem_cons.mp h with rfl | h
        · exact .inl (by rw [beq_iff_eq.mp heq])
        · exact .inr (List.mem_cons_of_mem _ h)
      · rcases List.mem_cons.mp h with rfl | h
        · exact .inr List.mem_cons_self
        · exact (ih h).imp_right (List.mem_cons_of_mem _)

end Table

section Sections

variable {α : Type} {saved? : α → Option α} {isTrimmed : α → Prop}

theorem nodup_names_savedSection (saved? : α → Option α) (t : Table (List α)) :
    (savedSection saved? t).names.Nodup := by
  refine List.foldlRecOn t _ (motive := fun t' => Table.names t' |>.Nodup) List.nodup_nil
    fun t' ht' e _ => ?_
  unfold withItems
  split
  · exact ht'
  · exact Table.nodup_names_alter ht' _ _

theorem isTrimmedSection_savedSection (hitem : ∀ a b, saved? a = some b → isTrimmed b)
    (t : Table (List α)) : IsTrimmedSection isTrimmed (savedSection saved? t) := by
  refine List.foldlRecOn t _ (motive := IsTrimmedSection isTrimmed) (fun _ he => nomatch he)
    fun t' ht' e _ => ?_
  unfold withItems
  split
  · exact ht'
  · next hempty =>
    intro e' he'
    rcases Table.eq_or_mem_of_mem_set he' with rfl | he'
    · refine ⟨Text.isTrimmed_trim _, fun hnil => hempty (List.isEmpty_iff.mpr hnil), fun b hb => ?_⟩
      obtain ⟨a, -, hab⟩ := List.mem_filterMap.mp hb
      exact hitem a b hab
    · exact ht' e' he'

/-- Where no two types are the same trimmed, a section comes back type by type. -/
theorem savedSection_of_nodup (saved? : α → Option α) {t : Table (List α)}
    (hnodup : (t.map fun e => trim e.1).Nodup) : savedSection saved? t =
      (t.map fun e => (trim e.1, e.2.filterMap saved?)).filter fun e => !e.2.isEmpty := by
  have happend : ∀ before : Table (List α), (before.names ++ t.map fun e => trim e.1).Nodup →
      t.foldl (fun t e => withItems t e.1 (e.2.filterMap saved?)) before = before ++
        (t.map fun e => (trim e.1, e.2.filterMap saved?)).filter fun e => !e.2.isEmpty := by
    clear hnodup
    induction t with
    | nil => exact fun before _ => (List.append_nil before).symm
    | cons e t ih =>
        intro before hnodup
        rw [List.map_cons] at hnodup
        rw [List.foldl_cons, List.map_cons, List.filter_cons, withItems]
        by_cases hempty : (e.2.filterMap saved?).isEmpty = true
        · have hrest := hnodup.sublist (List.Sublist.append_left (List.sublist_cons_self _ _) _)
          rw [if_pos hempty, if_neg (by simp [hempty]), ih before hrest]
        · have hnew : trim e.1 ∉ before.names := by
            intro hmem
            exact (List.nodup_append.mp hnodup).2.2 _ hmem _ List.mem_cons_self rfl
          have hnames : Table.names (before ++ [(trim e.1, e.2.filterMap saved?)]) =
              before.names ++ [trim e.1] := List.map_append
          rw [if_neg hempty, if_pos (by simp [hempty]), Table.set_of_not_mem hnew, ih,
            List.append_assoc]
          · rfl
          · rw [hnames, List.append_assoc]
            exact hnodup
  exact happend [] hnodup

theorem savedSection_eq_self (hitem : ∀ a, isTrimmed a → saved? a = some a) {t : Table (List α)}
    (hnodup : t.names.Nodup) (h : IsTrimmedSection isTrimmed t) : savedSection saved? t = t := by
  have hnames : (t.map fun e => trim e.1) = t.names :=
    List.map_congr_left fun e he => Text.trim_eq_self_iff.mpr (h e he).1
  have hkept : (t.map fun e => (trim e.1, e.2.filterMap saved?)) = t := by
    conv_rhs => rw [← List.map_id t]
    refine List.map_congr_left fun e he => ?_
    obtain ⟨htype, -, hitems⟩ := h e he
    have hsame : e.2.filterMap saved? = e.2 := by
      conv_rhs => rw [← List.filterMap_some (l := e.2)]
      exact List.filterMap_congr fun a ha => hitem a (hitems a ha)
    rw [hsame, Text.trim_eq_self_iff.mpr htype]
    rfl
  rw [savedSection_of_nodup saved? (hnames ▸ hnodup), hkept, List.filter_eq_self]
  intro e he
  simpa using (h e he).2.1

end Sections

/-! ## The round trip -/

namespace Profile

theorem isTrimmed_saved (p : Profile) : p.saved.IsTrimmed where
  description := Text.isTrimmed_trim _
  parent := fun s hs => isFilled_of_mem_savedText? hs
  rules := fun r hr => by
    obtain ⟨r, -, rfl⟩ := List.mem_map.mp hr
    exact r.isTrimmed_saved
  overrides := isTrimmedSection_savedSection (fun _ _ => Override.isTrimmed_of_saved?) _
  assertions := isTrimmedSection_savedSection (fun _ _ => Assertion.isTrimmed_of_saved?) _

theorem isLawful_saved (p : Profile) : p.saved.IsLawful where
  overrides := nodup_names_savedSection _ _
  assertions := nodup_names_savedSection _ _
  scopes := fun r hr => by
    obtain ⟨r, -, rfl⟩ := List.mem_map.mp hr
    exact Text.pairwise_sortedSet _

/-- A trimmed profile comes back as it is. -/
theorem IsTrimmed.saved_eq {p : Profile} (h : p.IsTrimmed) (hlawful : p.IsLawful) : p.saved = p := by
  have hrules : p.rules.map SuppressionRule.saved = p.rules := by
    conv_rhs => rw [← List.map_id p.rules]
    exact List.map_congr_left fun r hr => (h.rules r hr).saved_eq (hlawful.scopes r hr)
  rw [saved, Text.trim_eq_self_iff.mpr h.description, savedText?_eq_self h.parent, hrules,
    savedSection_eq_self (fun _ => Override.IsTrimmed.saved?_eq) hlawful.overrides h.overrides,
    savedSection_eq_self (fun _ => Assertion.IsTrimmed.saved?_eq) hlawful.assertions h.assertions]

/-- What came back once comes back unchanged. -/
theorem saved_saved (p : Profile) : p.saved.saved = p.saved :=
  p.isTrimmed_saved.saved_eq p.isLawful_saved

theorem saved_eq_self_iff {p : Profile} (h : p.IsLawful) : p.saved = p ↔ p.IsTrimmed := by
  constructor
  · intro heq
    exact heq ▸ p.isTrimmed_saved
  · exact fun htrimmed => htrimmed.saved_eq h

/-- The record of a profile is read. What is read is trimmed, and its own record gives it back
unchanged; it is the profile itself exactly if that is trimmed. -/
theorem round_trip (p : Profile) :
    ∃ q, ofRecord p.name p.record = .ok q ∧ q.IsTrimmed ∧ ofRecord p.name q.record = .ok q ∧
      (p.IsLawful → (q = p ↔ p.IsTrimmed)) := by
  refine ⟨p.saved, p.ofRecord_record, p.isTrimmed_saved, ?_, saved_eq_self_iff⟩
  have hagain := p.saved.ofRecord_record
  rwa [saved_saved] at hagain

/-- A profile with all its parts. -/
def archived : Profile where
  name := "archived"
  description := "For the archive"
  parent := some "base"
  rules := [⟨.idExact, " BR-1 ", ["EARCHIVE_REPORT", "INVOICE"], some "known"⟩,
    { pattern := "BR-.*" }]
  overrides := [("INVOICE", [{ element := "cac:Signature", minOccurs := some "0" }])]
  assertions := [("EARCHIVE_REPORT", [⟨some "/a", some "b", some "no b", some "X-1"⟩])]

theorem round_trip_of_archived : ofRecord "archived" archived.record = .ok archived := by
  have hlawful : archived.IsLawful := by
    refine ⟨by decide, by decide, ?_⟩
    simp only [archived, List.forall_mem_cons, List.not_mem_nil, false_implies, implies_true,
      and_true]
    decide
  have htrimmed : archived.IsTrimmed := by
    refine ⟨by decide, by decide, ?_, ?_, ?_⟩ <;>
      simp only [archived, IsTrimmedSection, List.forall_mem_cons, List.not_mem_nil, false_implies,
        implies_true, and_true]
    · exact ⟨⟨by decide, by decide⟩, ⟨by decide, by decide⟩⟩
    · exact ⟨by decide, by decide, ⟨by decide, by decide, by decide⟩⟩
    · exact ⟨by decide, by decide, ⟨by decide, by decide, by decide, by decide, by decide⟩⟩
  obtain ⟨q, hread, -, -, hq⟩ := round_trip archived
  obtain rfl : q = archived := (hq hlawful).mpr htrimmed
  exact hread

end Profile

end Conformity

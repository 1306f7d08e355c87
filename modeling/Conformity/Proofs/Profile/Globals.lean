import Conformity.Proofs.Data.Entries
import Conformity.Proofs.Profile.Removal
import Conformity.Proofs.Text.Trim

/-!
# Saved global assertions

Global assertions come back from the document trimmed and without those that are not complete
(`ProfileStore.globals_of_saveGlobals`). As with removals, what was written is taken to be read again,
but for labels.
-/

namespace Conformity

/-! ## One assertion -/

namespace Assertion

/-- An assertion as it comes back from a document: trimmed, if it is complete, and without a blank
id. -/
def saved? (a : Assertion) : Option Assertion :=
  if a.isComplete then
    some ⟨a.context.map Text.trim, a.test.map Text.trim, a.message.map Text.trim,
      (a.id.filter fun s => !Text.isBlankText s).map Text.trim⟩
  else none

theorem hasText_map_trim (s : Option String) : hasText (s.map Text.trim) = hasText s := by
  cases s <;> simp [hasText]

theorem trimmedText?_ofText? (s : Option String) :
    trimmedText? (Data.ofText? s) = s.map Text.trim := by
  cases s <;> rfl

/-- The id that is written is the one that is not blank. -/
theorem fieldText?_id (a : Assertion) (es : List (String × Data))
    (hes : ∀ e ∈ es, e.1 ≠ "id") :
    fieldText? "id" ((es ++ if hasText a.id then [("id", Data.ofText? a.id)] else []).map
      fun e => (Scalar.text e.1, e.2)) =
      (a.id.filter fun s => !Text.isBlankText s).map Text.trim := by
  induction es with
  | nil =>
      cases hid : a.id with
      | none => rfl
      | some id =>
          by_cases hblank : Text.isBlankText id = true
          · simp [hasText, hblank, fieldText?, Data.field, Data.lookup]
          · simp [hasText, hblank, fieldText?, Data.field_cons, Data.ofText?, trimmedText?,
              Data.isNull, Data.plain, Scalar.plain, Data.text, Option.filter]
  | cons e es ih =>
      rw [List.forall_mem_cons] at hes
      rw [List.cons_append, List.map_cons, fieldText?, Data.field_cons,
        if_neg (by simpa using hes.1)]
      exact ih hes.2

/-- An assertion is read as it was written, but for blanks around its texts. -/
theorem ofRecord?_record (a : Assertion) : a.record.entries?.bind ofRecord? = a.saved? := by
  have hfields : ∀ fields, a.record.entries? = some fields →
      fieldText? "context" fields = a.context.map Text.trim ∧
        fieldText? "test" fields = a.test.map Text.trim ∧
        fieldText? "message" fields = a.message.map Text.trim ∧
        fieldText? "id" fields = (a.id.filter fun s => !Text.isBlankText s).map Text.trim := by
    rintro fields ⟨⟩
    refine ⟨?_, ?_, ?_, fieldText?_id a _ (by simp)⟩ <;>
      simp [fieldText?, Data.field_cons, trimmedText?_ofText?]
  obtain ⟨hcontext, htest, hmessage, hid⟩ := hfields _ rfl
  show ofRecord? _ = _
  unfold ofRecord? saved? isComplete
  dsimp only
  rw [hcontext, htest, hmessage, hid, hasText_map_trim, hasText_map_trim, hasText_map_trim]

end Assertion

/-! ## Sections -/

open Data Form

/-- The form of a record of an assertion. -/
abbrev assertionForm : Form :=
  .record [.object] []
    [("context", looseText), ("test", looseText), ("message", looseText), ("id", looseText)]

/-- The form of a section of assertions. -/
abbrev assertionsSectionForm : Form := .tableOf [.object, .null] assertionsForm

theorem fits_ofText? (s : Option String) : looseText.misfits (Data.ofText? s) = [] := by
  cases s <;> rfl

/-- A list fits the form of a list exactly if every item fits. -/
theorem Form.misfits_ofList_eq_nil {sorts : List DataSort} (hsorts : .array ∈ sorts) {form : Form}
    {items : List Data} :
    (listOf sorts form).misfits (ofList items) = [] ↔ ∀ d ∈ items, form.misfits d = [] := by
  have hsort : sortMisfits sorts (ofList items) = [] := by
    simp [sortMisfits, ofList, DataSort.of?, hsorts]
  rw [misfits, hsort, List.nil_append, atPositions_eq_nil]
  rfl

namespace Assertion

theorem fits_record (a : Assertion) : assertionForm.misfits a.record = [] := by
  have hnil : field "id" [] = none := rfl
  by_cases hid : hasText a.id <;>
    simp [record, hid, misfits, fieldMisfits, field_cons, hnil, ofEntries, entries?, sortMisfits,
      DataSort.of?, fits_ofText?]

theorem isFresh_record (a : Assertion) : a.record.isFresh := by
  refine isFresh_ofEntries ?_
  by_cases hid : hasText a.id <;> simp [hid]

end Assertion

section Sections

variable {α : Type} {record : α → Data}

theorem fits_sectionRecord {form : Form} (hitem : ∀ a, form.misfits (record a) = [])
    (t : Table (List α)) :
    (Form.tableOf [.object, .null] (.listOf [.array, .null] form)).misfits
      (Profile.sectionRecord record t) = [] := by
  rw [misfits, List.append_eq_nil_iff]
  refine ⟨rfl, List.flatMap_eq_nil_iff.mpr fun e he => List.map_eq_nil_iff.mpr ?_⟩
  obtain ⟨e', he', rfl⟩ := List.mem_map.mp he
  obtain ⟨e, -, rfl⟩ := List.mem_map.mp he'
  refine (misfits_ofList_eq_nil (by decide)).mpr fun d hd => ?_
  obtain ⟨a, -, rfl⟩ := List.mem_map.mp hd
  exact hitem a

theorem isFresh_sectionRecord (hitem : ∀ a, (record a).isFresh) (t : Table (List α)) :
    (Profile.sectionRecord record t).isFresh := by
  refine isFresh_ofEntries fun e he => ?_
  obtain ⟨e, -, rfl⟩ := List.mem_map.mp he
  refine isFresh_ofList fun d hd => ?_
  obtain ⟨a, -, rfl⟩ := List.mem_map.mp hd
  exact hitem a

end Sections

namespace Assertions

/-- The record of a section of assertions. -/
abbrev record (as : Assertions) : Data := Profile.sectionRecord Assertion.record as

theorem fits_record (as : Assertions) : assertionsSectionForm.misfits as.record = [] :=
  fits_sectionRecord Assertion.fits_record as

theorem isFresh_record (as : Assertions) : as.record.isFresh :=
  isFresh_sectionRecord Assertion.isFresh_record as

/-- A section that is the same but for labels holds the same assertions. -/
theorem ofSection_of_bare_eq {as : Assertions} {d : Data} (h : d.bare = as.record.bare) :
    ofSection d = ofSection as.record := by
  have hfits : assertionsSectionForm.misfits d = [] := by
    rw [← misfits_bare_eq_nil, h, misfits_bare_eq_nil]
    exact as.fits_record
  have hread := fun (item : Data) (hitem : assertionForm.misfits item = []) =>
    Assertion.ofRecord?_bare hitem
  unfold ofSection
  rw [← sectionOf_bare hfits hread, h, sectionOf_bare as.fits_record hread]

/-- The assertions for a name as they come back from a document. -/
def saved (as : Assertions) (name : String) : List Assertion :=
  ((as.get? name).getD []).filterMap Assertion.saved?

/-- The keys of a mapping, none with blanks around it. -/
structure IsMapping (as : Assertions) : Prop where
  nodup : as.names.Nodup
  trimmed : ∀ e ∈ as, Text.trim e.1 = e.1

/-- A table with what is read of an entry of a section. -/
def withEntry (t : Assertions) (e : Scalar × Data) : Assertions :=
  let items := ((e.2.items?).getD []).filterMap fun item => item.entries?.bind Assertion.ofRecord?
  if items.isEmpty then t else t.set (Text.trim e.1.plain) items

theorem withEntry_record (t : Assertions) {name : String} (hname : Text.trim name = name)
    (as : List Assertion) : t.withEntry (.text name, ofList (as.map Assertion.record)) =
      if (as.filterMap Assertion.saved?).isEmpty then t
      else t.set name (as.filterMap Assertion.saved?) := by
  have hitems : (as.map Assertion.record).filterMap
      (fun item => item.entries?.bind Assertion.ofRecord?) = as.filterMap Assertion.saved? := by
    rw [List.filterMap_map]
    exact List.filterMap_congr fun a _ => a.ofRecord?_record
  have hplain : (Scalar.text name).plain = name := rfl
  unfold withEntry
  dsimp only [ofList, items?, Option.getD_some]
  rw [hitems, hplain, hname]

theorem saved_cons (e : String × List Assertion) (as : Assertions) (name : String) :
    saved (e :: as) name =
      if e.1 = name then e.2.filterMap Assertion.saved? else as.saved name := by
  unfold saved
  rw [Table.get?_cons]
  split <;> rfl

theorem saved_of_not_mem {as : Assertions} {name : String} (h : name ∉ as.names) :
    as.saved name = [] := by
  unfold saved
  rw [Table.get?_eq_none_iff.mpr h]
  rfl

theorem getD_get?_foldl_withEntry {as : Assertions} (h : as.IsMapping) (name : String)
    {t : Assertions} (hnew : ∀ e ∈ as, t.get? e.1 = none) :
    (((as.map fun e => (Scalar.text e.1, ofList (e.2.map Assertion.record))).foldl withEntry
      t).get? name).getD [] = (t.get? name).getD [] ++ as.saved name := by
  induction as generalizing t with
  | nil => simp [saved]
  | cons e as ih =>
      obtain ⟨hnodup, htrimmed⟩ := h
      rw [Table.names_cons, List.nodup_cons] at hnodup
      rw [List.forall_mem_cons] at htrimmed hnew
      have hother : ∀ e' ∈ as, e'.1 ≠ e.1 := by
        rintro e' he' heq
        exact hnodup.1 (heq ▸ List.mem_map_of_mem he')
      rw [List.map_cons, List.foldl_cons, withEntry_record t htrimmed.1, saved_cons]
      by_cases hitems : (e.2.filterMap Assertion.saved?).isEmpty = true
      · rw [if_pos hitems, ih ⟨hnodup.2, htrimmed.2⟩ hnew.2]
        split
        · next heq =>
          rw [saved_of_not_mem (heq ▸ hnodup.1), List.isEmpty_iff.mp hitems]
        · rfl
      · rw [if_neg hitems, ih ⟨hnodup.2, htrimmed.2⟩ ?_, Table.get?_set]
        · by_cases heq : e.1 = name
          · subst heq
            simp [hnew.1, saved_of_not_mem hnodup.1]
          · simp [heq]
        · intro e' he'
          rw [Table.get?_set, if_neg (hother e' he').symm]
          exact hnew.2 e' he'

/-- A section is read as it was written, but for blanks and for assertions that are not complete. -/
theorem getD_get?_ofSection_record {as : Assertions} (h : as.IsMapping) (name : String) :
    ((ofSection as.record).get? name).getD [] = as.saved name := by
  have hread := getD_get?_foldl_withEntry h name fun _ _ => Table.get?_nil _
  have hentries : as.record.entries? =
      some (as.map fun e => (Scalar.text e.1, ofList (e.2.map Assertion.record))) := by
    show some _ = some _
    rw [List.map_map]
    rfl
  unfold ofSection sectionOf
  rw [hentries, Option.getD_some]
  exact hread

/-- Types without assertions need not be written. -/
theorem saved_filter {as : Assertions} (h : as.names.Nodup) (name : String) :
    saved (as.filter fun e => !e.2.isEmpty) name = as.saved name := by
  induction as with
  | nil => rfl
  | cons e as ih =>
      rw [Table.names_cons, List.nodup_cons] at h
      rw [List.filter_cons, saved_cons]
      by_cases hempty : e.2.isEmpty = true
      · rw [if_neg (by simp [hempty]), ih h.2]
        split
        · next heq =>
          rw [saved_of_not_mem (heq ▸ h.1), List.isEmpty_iff.mp hempty]
          rfl
        · rfl
      · rw [if_pos (by simp [hempty]), saved_cons, ih h.2]

theorem IsMapping.filter {as : Assertions} (h : as.IsMapping) (p : String × List Assertion → Bool) :
    IsMapping (as.filter p) where
  nodup := h.nodup.sublist (List.filter_sublist.map _)
  trimmed := fun e he => h.trimmed e (List.mem_of_mem_filter he)

end Assertions

/-! ## Documents -/

namespace ProfileStore

open Registry.Edit (printed)

variable {s : ProfileStore} {entries : Data.Fields} {r r₀ : Root} {as : Assertions}

theorem field_insert_of_ne {key name : String} (h : name ≠ key) (value : Data) (es : Data.Fields) :
    field key (Data.insert (.text name) value es) = field key es := by
  have htext : Scalar.text name ≠ .text key := fun heq => h (Scalar.text.inj heq)
  induction es with
  | nil => rw [Data.insert, field_cons, if_neg htext]
  | cons e es ih =>
      rw [Data.insert]
      split
      · next hsame =>
        rw [field_cons, field_cons, Scalar.sameKey_text_iff.mp hsame, if_neg htext, if_neg htext]
      · rw [field_cons, field_cons, ih]

theorem field_erase_self (key : String) (es : Data.Fields) :
    field key (erase (.text key) es) = none := by
  refine Option.not_isSome_iff_eq_none.mp fun h => ?_
  obtain ⟨e, he, heq⟩ := field_isSome_iff.mp h
  exact (mem_erase_iff.mp he).2 heq

/-- The root of a document has the fields of the document, but for the section of profiles. -/
theorem field_rootOf {content : Bytes} {label : Nat} {key : String}
    (hread : Yaml.read content = .ok (.map label entries)) (hroot : s.rootOf content = .ok r)
    (hkey : profilesKey ≠ key) : field key r.entries = field key entries := by
  unfold rootOf at hroot
  rw [hread] at hroot
  dsimp only [Root.of?] at hroot
  split at hroot
  · cases hroot
    rfl
  · cases hroot
    exact field_insert_of_ne hkey _ _

/-- The global assertions of a document that is read again are those of a section that is the same
but for labels. -/
theorem exists_globals_eq (hback : ReadsBack entries) (hroot : s.rootOf (printed entries) = .ok r)
    (hknotless : ((field assertionsKey entries).getD .null).isKnotless) :
    ∃ d, d.bare = ((field assertionsKey entries).getD .null).bare ∧
      r.globals = Assertions.ofSection d := by
  obtain ⟨d, hread, hbare⟩ := hback
  obtain ⟨label, es, rfl, hes⟩ := exists_map_of_bare_eq hbare
  have hfield : ((field assertionsKey r.entries).getD .null).bare =
      ((field assertionsKey entries).getD .null).bare := by
    rw [field_rootOf hread hroot (by decide), ← getD_field_bareEntries, ← getD_field_bareEntries,
      hes]
  refine ⟨_, hfield, ?_⟩
  unfold Root.globals
  rw [unroll_of_isKnotless]
  rw [← isKnotless_bare, hfield, isKnotless_bare]
  exact hknotless

/-- Global assertions come back trimmed, if they are complete, type by type. -/
theorem globals_of_saveGlobals (h : as.IsMapping)
    (hentries : (Registry.Edit.saveGlobals as).entries? r₀ = some entries)
    (hback : ReadsBack entries) (hroot : s.rootOf (printed entries) = .ok r) (name : String) :
    (r.globals.get? name).getD [] = as.saved name := by
  unfold Registry.Edit.entries? at hentries
  dsimp only at hentries
  rw [← Assertions.saved_filter h.nodup]
  split at hentries
  · next hempty =>
    cases hentries
    obtain ⟨d, hbare, hglobals⟩ := exists_globals_eq hback hroot (by rw [field_erase_self]; rfl)
    -- nothing is a section without entries
    have hnone : d.entries? = none := by
      rw [field_erase_self] at hbare
      have hentries := congrArg entries? hbare
      rw [entries?_bare] at hentries
      exact Option.map_eq_none_iff.mp hentries
    rw [hglobals, Assertions.ofSection, sectionOf, hnone, List.isEmpty_iff.mp hempty]
    rfl
  · cases hentries
    have hfield : ∀ d es, field assertionsKey ((.text assertionsKey, d) :: es) = some d :=
      fun d es => by rw [field_cons, if_pos rfl]
    obtain ⟨d, hbare, hglobals⟩ := exists_globals_eq hback hroot (by
      rw [hfield]
      exact isKnotless_of_isFresh (Assertions.isFresh_record _))
    rw [hfield] at hbare
    rw [hglobals, Assertions.ofSection_of_bare_eq hbare,
      Assertions.getD_get?_ofSection_record (h.filter _)]

end ProfileStore

end Conformity

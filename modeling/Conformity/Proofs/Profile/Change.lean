import Conformity.Proofs.Data.Entries
import Conformity.Proofs.Profile.Editors
import Conformity.Proofs.Profile.RoundTrip

/-!
# Changes of the profiles document

A profile is put or removed, or the global assertions are replaced. What a change writes is worked
out from the root that was read (`ProfileStore.Change.entries?`); a document that is fit for changes
takes it and is fit for changes again (`ProfileStore.Holds.step`). What was written is taken to be
read again, but for labels, and values that lie within themselves are left out.
-/

namespace Conformity

open Data

/-! ## Records are made anew -/

theorem Override.isFresh_record (o : Override) : o.record.isFresh := by
  refine isFresh_ofEntries ?_
  cases o.minOccurs <;> cases o.maxOccurs <;> simp

theorem SuppressionRule.isFresh_record (r : SuppressionRule) : r.record.isFresh := by
  have hscope : (texts r.scope).isFresh := by
    refine isFresh_ofList fun d hd => ?_
    obtain ⟨s, -, rfl⟩ := List.mem_map.mp hd
    exact isFresh_text s
  refine isFresh_ofEntries ?_
  by_cases hglobal : r.isGlobal <;> by_cases htext : hasText r.description <;>
    simp [hglobal, htext, hscope]

theorem Profile.isFresh_record (p : Profile) : p.record.isFresh := by
  have hrules : (ofList (p.rules.map SuppressionRule.record)).isFresh := by
    refine isFresh_ofList fun d hd => ?_
    obtain ⟨r, -, rfl⟩ := List.mem_map.mp hd
    exact r.isFresh_record
  have hoverrides := isFresh_sectionRecord Override.isFresh_record p.overrides
  have hassertions := isFresh_sectionRecord Assertion.isFresh_record p.assertions
  refine isFresh_ofEntries fun e he => ?_
  simp only [List.mem_append, List.mem_ite_nil_right, List.mem_ite_nil_left,
    List.mem_singleton] at he
  rcases he with (((⟨-, rfl⟩ | ⟨-, rfl⟩) | ⟨-, rfl⟩) | ⟨-, rfl⟩) | ⟨-, rfl⟩
  · exact isFresh_text _
  · exact isFresh_ofText? _
  · exact hrules
  · exact hoverrides
  · exact hassertions

namespace ProfileStore

open Registry.Edit (printed)

variable {s : ProfileStore} {disk disk' : Disk} {r : Root} {entries records : Fields} {label : Nat}
  {name : String}

/-! ## Sections that are mentioned once -/

/-- The section of profiles is mentioned in no other section. -/
def IsUnshared (entries : Fields) : Prop :=
  ∀ label records, field profilesKey entries = some (.map label records) →
    label = 0 ∨ mentionCount label entries ≤ 1

instance (entries : Fields) : Decidable (IsUnshared entries) :=
  match h : field profilesKey entries with
  | some (.map label _) =>
    if hlabel : label = 0 ∨ mentionCount label entries ≤ 1 then
      isTrue fun _ _ hfield => by cases h.symm.trans hfield; exact hlabel
    else isFalse fun hunshared => hlabel (hunshared label _ h)
  | none | some (.scalar _) | some (.list ..) | some (.set ..) | some (.pair ..) | some (.knot ..) =>
    isTrue fun _ _ hfield => nomatch h.symm.trans hfield

/-- Entries are read as they were written, but for labels, and what was mentioned once is. -/
def ReadsBackUnshared (entries : Fields) : Prop :=
  ∃ label es, Yaml.read (printed entries) = .ok (.map label es) ∧
    bareEntries es = bareEntries entries ∧ (IsUnshared entries → IsUnshared es)

theorem mentionCount_replaceEntries_le (label : Nat) (records es : Fields) :
    mentionCount label (replaceEntries label records es) ≤ mentionCount label es := by
  induction es with
  | nil => exact Nat.le_refl 0
  | cons e es ih =>
      obtain ⟨k, d⟩ := e
      unfold mentionCount at ih ⊢
      rw [replaceEntries, List.countP_cons, List.countP_cons]
      refine Nat.add_le_add ih ?_
      by_cases hmentions : d.mentions label = true
      · rw [if_pos hmentions]
        split <;> omega
      · have hnone : d.mentions label = false := Bool.eq_false_of_not_eq_true hmentions
        rw [replace_of_not_mentions hnone]

section Sections

variable (hsection : field profilesKey r.entries = some (.map label r.records))

include hsection

theorem Root.entries_withRecords (records : Fields) : (r.withRecords records).entries =
    if label = 0 then insert (.text profilesKey) (.map 0 records) r.entries
    else replaceEntries label records r.entries := by
  unfold withRecords
  rw [hsection]
  cases label <;> rfl

variable (hunshared : IsUnshared r.entries)

include hunshared

/-- With other records the section of profiles is still mentioned once. -/
theorem isUnshared_withRecords (records : Fields) : IsUnshared (r.withRecords records).entries := by
  intro label' es hfield
  rw [Root.field_withRecords _ hsection] at hfield
  cases hfield
  by_cases hlabel : label = 0
  · exact .inl hlabel
  · have honce := (hunshared _ _ hsection).resolve_left hlabel
    rw [Root.entries_withRecords hsection, if_neg hlabel]
    exact .inr (Nat.le_trans (mentionCount_replaceEntries_le _ _ _) honce)

/-- Other records stand in place of the section of profiles, and nothing else changes. -/
theorem bareEntries_withRecords (records : Fields) : bareEntries (r.withRecords records).entries =
    insert (.text profilesKey) (.map 0 (bareEntries records)) (bareEntries r.entries) := by
  rw [Root.entries_withRecords hsection]
  by_cases hlabel : label = 0
  · rw [if_pos hlabel, bareEntries_insert]
    rfl
  · rw [if_neg hlabel]
    exact bareEntries_replaceEntries hsection ((hunshared _ _ hsection).resolve_left hlabel)

end Sections

/-! ## Changes -/

/-- A change of the document. -/
inductive Change where
  | put (profile : Profile)
  | remove (name : String)
  | putGlobals (globals : Assertions)

namespace Change

/-- Makes a change. Was there something to change? -/
def run (s : ProfileStore) : Change → Disk.Action Bool
  | put p => do
    s.put p
    return true
  | remove name => s.remove name
  | putGlobals globals => do
    s.putGlobals globals
    return true

/-- The records after a change. -/
def after (es : Fields) : Change → Fields
  | put p => insert (.text p.name) p.record es
  | remove name => erase (.text name) es
  | putGlobals _ => es

/-- The section of global assertions, if there are any. -/
def globalsSection (globals : Assertions) : Fields :=
  if globals.isEmpty then [] else [(.text assertionsKey, globals.record)]

/-- The entries that a change writes, if there is something to change. -/
def entries? (r : Root) (c : Change) : Option Fields :=
  match c with
  | put _ => some (r.withRecords (c.after r.records)).entries
  | remove name =>
    if (field name r.records).isNone then none else some (r.withRecords (c.after r.records)).entries
  | putGlobals globals => some (globalsSection globals ++ erase (.text assertionsKey) r.entries)

/-- What a change does to the disk follows from what it writes. -/
theorem resultOf_run (c : Change) (hload : (resultOf s.loadRoot disk).1 = .ok r) :
    resultOf (c.run s) disk =
      match c.entries? r with
      | none => (.ok false, disk)
      | some entries =>
        ((resultOf (s.writeRoot entries) disk).1.map fun _ => true,
          (resultOf (s.writeRoot entries) disk).2) := by
  cases c with
  | put p =>
      show resultOf (s.put p >>= fun _ => Pure.pure true) disk = _
      unfold ProfileStore.put
      rw [resultOf_bind, Registry.Edit.resultOf_loadRoot_bind, hload]
      dsimp only [entries?, after]
      rcases resultOf (s.writeRoot _) disk with ⟨result, disk'⟩
      cases result <;> rfl
  | remove name =>
      show resultOf (s.remove name) disk = _
      unfold ProfileStore.remove
      rw [Registry.Edit.resultOf_loadRoot_bind, hload]
      dsimp only [entries?, after]
      by_cases h : (field name r.records).isNone
      · rw [if_pos h, if_pos h]
        rfl
      · rw [if_neg h, if_neg h, resultOf_bind]
        dsimp only
        rcases resultOf (s.writeRoot _) disk with ⟨result, disk'⟩
        cases result <;> rfl
  | putGlobals globals =>
      show resultOf (s.putGlobals globals >>= fun _ => Pure.pure true) disk = _
      unfold ProfileStore.putGlobals
      rw [resultOf_bind, Registry.Edit.resultOf_loadRoot_bind, hload]
      dsimp only [entries?, globalsSection]
      by_cases h : globals.isEmpty
      · rw [if_pos h, if_pos h, List.nil_append]
        rcases resultOf (s.writeRoot _) disk with ⟨result, disk'⟩
        cases result <;> rfl
      · rw [if_neg h, if_neg h, List.singleton_append]
        rcases resultOf (s.writeRoot _) disk with ⟨result, disk'⟩
        cases result <;> rfl

/-- A change writes other records, or another section of global assertions. -/
theorem entries?_eq_some {c : Change} (h : c.entries? r = some entries) :
    entries = (r.withRecords (c.after r.records)).entries ∨
      ∃ globals, c = putGlobals globals ∧
        entries = globalsSection globals ++ erase (.text assertionsKey) r.entries := by
  cases c with
  | put p => exact .inl (Option.some.inj h).symm
  | remove name =>
      unfold entries? at h
      dsimp only at h
      split at h
      · cases h
      · exact .inl (Option.some.inj h).symm
  | putGlobals globals => exact .inr ⟨globals, rfl, (Option.some.inj h).symm⟩

end Change

/-! ## Documents that are fit for changes -/

/-- All keys are texts, each of them once. -/
def HasNames (records : Fields) : Prop :=
  ∃ names : List String, names.Nodup ∧ keys records = names.map .text

/-- The document on the disk has a root whose profiles lie under texts, each once; no other section
mentions them, nothing lies within itself, and the document can be written. -/
structure Holds (s : ProfileStore) (disk : Disk) (r : Root) : Prop where
  document : ∃ place content, s.storage.place s.path = .ok place ∧
    disk.content? place = some content ∧ disk.Takes (Storage.besides place) ∧
      s.rootOf content = .ok r
  knotless : r.toData.isKnotless
  unshared : IsUnshared r.entries
  names : HasNames r.records

/-- A root that was read has a section of profiles. -/
theorem exists_section_of_rootOf {content : Bytes} (hroot : s.rootOf content = .ok r)
    (hknotless : r.toData.isKnotless) :
    ∃ label, field profilesKey r.entries = some (.map label r.records) := by
  refine Root.exists_field hknotless ?_
  -- where there was no section, reading has put an empty one there
  have hof : ∀ label es r', (if (Root.section? es).isSome then (⟨label, es⟩ : Root)
      else ⟨label, insert (.text profilesKey) (.map 0 []) es⟩) = r' →
        (Root.section? r'.entries).isSome := by
    rintro label es r' rfl
    split
    · assumption
    · rw [Root.section?_of_field (field_insert_self ..)]
      rfl
  unfold rootOf at hroot
  split at hroot
  · cases hroot
  · split at hroot
    · next r' hr' =>
      cases hroot
      unfold Root.of? at hr'
      split at hr'
      · exact hof _ _ _ (Option.some.inj hr')
      · exact hof _ _ _ (Option.some.inj hr')
      · cases hr'
    · cases hroot

namespace Holds

theorem exists_section (h : s.Holds disk r) :
    ∃ label, field profilesKey r.entries = some (.map label r.records) := by
  obtain ⟨_, _, _, _, _, hroot⟩ := h.document
  exact exists_section_of_rootOf hroot h.knotless

theorem document_eq (h : s.Holds disk r) :
    ∃ content, s.document disk = some content ∧ s.rootOf content = .ok r := by
  obtain ⟨place, content, hplace, hcontent, -, hroot⟩ := h.document
  refine ⟨content, ?_, hroot⟩
  unfold ProfileStore.document
  rw [hplace]
  exact hcontent

theorem loadRoot_eq (h : s.Holds disk r) : (resultOf s.loadRoot disk).1 = .ok r := by
  obtain ⟨content, hdocument, hroot⟩ := h.document_eq
  rw [resultOf_loadRoot_of_document hdocument]
  exact hroot

theorem load_eq (h : s.Holds disk r) : (resultOf s.load disk).1 = readRoot r := by
  rw [ProfileStore.load_eq, h.loadRoot_eq]
  rfl

end Holds

/-! ## What a change writes -/

namespace Change

variable {c : Change} {globals : Assertions}

theorem field_globalsSection (globals : Assertions) :
    field profilesKey (globalsSection globals) = none := by
  unfold globalsSection
  split
  · rfl
  · have hne : Scalar.text assertionsKey ≠ .text profilesKey := by decide
    rw [field_cons, if_neg hne]
    rfl

theorem field_putGlobals (globals : Assertions) (es : Fields) :
    field profilesKey (globalsSection globals ++ erase (.text assertionsKey) es) =
      field profilesKey es := by
  rw [field_append, field_globalsSection, Option.none_or, field_erase_of_ne (by decide)]

theorem isFresh_of_mem_globalsSection {e : Scalar × Data} (h : e ∈ globalsSection globals) :
    e.2.isFresh := by
  unfold globalsSection at h
  split at h
  · cases h
  · rw [List.mem_singleton.mp h]
    exact globals.isFresh_record

theorem isKnotlessEntries_after (h : isKnotlessEntries records) (c : Change) :
    isKnotlessEntries (c.after records) := by
  cases c with
  | put p => exact isKnotlessEntries_insert h (isKnotless_of_isFresh p.isFresh_record) _
  | remove name => exact isKnotlessEntries_erase h _
  | putGlobals globals => exact h

/-- Where there is nothing to change the records stay as they are. -/
theorem after_eq_self (h : c.entries? r = none) : c.after r.records = r.records := by
  cases c with
  | put p => cases h
  | remove name =>
      unfold entries? at h
      dsimp only at h
      split at h
      · next hnone => exact erase_of_field_eq_none (Option.isNone_iff_eq_none.mp hnone)
      · cases h
  | putGlobals globals => cases h

theorem hasNames_after (h : HasNames records) (c : Change) : HasNames (c.after records) := by
  obtain ⟨names, hnodup, hkeys⟩ := h
  cases c with
  | put p =>
      show HasNames (insert _ _ records)
      unfold HasNames
      rw [keys_insert]
      by_cases hthere : (field p.name records).isSome
      · rw [if_pos hthere]
        exact ⟨names, hnodup, hkeys⟩
      · rw [if_neg hthere, hkeys]
        refine ⟨names ++ [p.name], ?_, by simp⟩
        rw [← List.concat_eq_append]
        refine hnodup.concat fun hmem => hthere (text_mem_keys_iff.mp ?_)
        rw [hkeys]
        exact List.mem_map_of_mem hmem
  | remove name =>
      show HasNames (erase _ records)
      unfold HasNames
      rw [keys_erase, hkeys, List.filter_map]
      exact ⟨_, hnodup.filter _, rfl⟩
  | putGlobals globals => exact ⟨names, hnodup, hkeys⟩

end Change

variable {c : Change}

/-- The records after a change are written in the section of profiles. -/
theorem Holds.field_of_entries? (h : s.Holds disk r) (hentries : c.entries? r = some entries) :
    ∃ label, field profilesKey entries = some (.map label (c.after r.records)) := by
  obtain ⟨label, hsection⟩ := h.exists_section
  refine ⟨label, ?_⟩
  rcases Change.entries?_eq_some hentries with rfl | ⟨globals, rfl, rfl⟩
  · exact Root.field_withRecords _ hsection
  · rw [Change.field_putGlobals, hsection]
    rfl

theorem Holds.isKnotless_of_entries? (h : s.Holds disk r) (hentries : c.entries? r = some entries) :
    isKnotlessEntries entries := by
  rcases Change.entries?_eq_some hentries with rfl | ⟨globals, rfl, rfl⟩
  · have hrecords := Root.isKnotlessEntries_records h.knotless
    exact Root.isKnotlessEntries_withRecords h.knotless (Change.isKnotlessEntries_after hrecords c)
  · have hothers : isKnotlessEntries (erase (.text assertionsKey) r.entries) :=
      isKnotlessEntries_erase h.knotless _
    rw [isKnotlessEntries_iff] at hothers ⊢
    intro e he
    rcases List.mem_append.mp he with he | he
    · exact isKnotless_of_isFresh (Change.isFresh_of_mem_globalsSection he)
    · exact hothers e he

theorem Holds.isUnshared_of_entries? (h : s.Holds disk r) (hentries : c.entries? r = some entries) :
    IsUnshared entries := by
  rcases Change.entries?_eq_some hentries with rfl | ⟨globals, rfl, rfl⟩
  · obtain ⟨label, hsection⟩ := h.exists_section
    exact isUnshared_withRecords hsection h.unshared _
  · intro label es hfield
    rw [Change.field_putGlobals] at hfield
    by_cases hlabel : label = 0
    · exact .inl hlabel
    · have honce := (h.unshared label es hfield).resolve_left hlabel
      have hglobals : mentionCount label (Change.globalsSection globals) = 0 := by
        refine List.countP_eq_zero.mpr fun e he => ?_
        rw [not_mentions_of_isFresh hlabel (Change.isFresh_of_mem_globalsSection he)]
        exact Bool.false_ne_true
      have hothers : mentionCount label (erase (.text assertionsKey) r.entries) ≤
          mentionCount label r.entries := List.filter_sublist.countP_le
      unfold mentionCount at hglobals hothers honce ⊢
      rw [List.countP_append]
      omega

/-! ## A change after the other -/

/-- What is read again are the entries and records that were written. -/
theorem exists_rootOf_of_readsBack (hsection : field profilesKey entries = some (.map label records))
    (hback : ReadsBackUnshared entries) : ∃ r', s.rootOf (printed entries) = .ok r' ∧
      bareEntries r'.entries = bareEntries entries ∧ bareEntries r'.records = bareEntries records ∧
      (IsUnshared entries → IsUnshared r'.entries) := by
  obtain ⟨rootLabel, es, hread, hbare, hunshared⟩ := hback
  obtain ⟨hroot, hrecords⟩ :=
    rootOf_of_bareEntries (s := s) hread hbare (Root.section?_of_field hsection)
  exact ⟨⟨rootLabel, es⟩, hroot, hbare, hrecords, hunshared⟩

/-- A document that is fit for changes takes each, tells whether there was something to change, and is
fit for changes again, provided that what is written is read again. -/
theorem Holds.step (h : s.Holds disk r) (c : Change)
    (hback : ∀ entries, c.entries? r = some entries → ReadsBackUnshared entries) :
    ∃ disk' r', resultOf (c.run s) disk = (.ok (c.entries? r).isSome, disk') ∧ s.Holds disk' r' ∧
      bareEntries r'.records = bareEntries (c.after r.records) ∧
      (c.entries? r = none → disk' = disk ∧ r' = r) ∧
      ∀ entries, c.entries? r = some entries → bareEntries r'.entries = bareEntries entries := by
  have hrun := c.resultOf_run h.loadRoot_eq
  cases hentries : c.entries? r with
  | none =>
      rw [hentries] at hrun
      refine ⟨disk, r, hrun, h, ?_, fun _ => ⟨rfl, rfl⟩, fun _ heq => nomatch heq⟩
      rw [Change.after_eq_self hentries]
  | some entries =>
      obtain ⟨place, content, hplace, hcontent, htakes, hroot⟩ := h.document
      obtain ⟨disk', hwrite⟩ := Storage.exists_write_eq_ok hplace hcontent htakes (printed entries)
      have hwritten : resultOf (s.writeRoot entries) disk = (.ok ⟨⟩, disk') := hwrite
      obtain ⟨label, hsection⟩ := h.field_of_entries? hentries
      obtain ⟨r', hroot', hbare, hrecords, hunshared⟩ :=
        exists_rootOf_of_readsBack (s := s) hsection (hback entries hentries)
      rw [hentries] at hrun
      dsimp only at hrun
      rw [hwritten] at hrun
      refine ⟨disk', r', hrun, ?_, hrecords, (fun heq => nomatch heq), ?_⟩
      · refine ⟨⟨place, _, hplace, Storage.content?_write_of_ok hplace hwrite,
          Storage.takes_besides_of_write hplace hwrite, hroot'⟩, ?_, ?_, ?_⟩
        · show isKnotlessEntries r'.entries
          rw [← isKnotlessEntries_bareEntries, hbare, isKnotlessEntries_bareEntries]
          exact h.isKnotless_of_entries? hentries
        · exact hunshared (h.isUnshared_of_entries? hentries)
        · unfold HasNames
          rw [← keys_bareEntries, hrecords, keys_bareEntries]
          exact Change.hasNames_after h.names c
      · rintro _ ⟨⟩
        exact hbare

end ProfileStore

end Conformity

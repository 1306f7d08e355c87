import Conformity.Proofs.Profile.Bare
import Conformity.Proofs.Profile.Edit

/-!
# Removing profiles

A document is read by the texts of its keys, and a profile is removed by a key that is its text. A
profile that is served is removed exactly if its name stands under that text alone
(`ProfileStore.remove_removes_iff`); a profile under a number, say, is not found. The other profiles
stay as they are in any case. Values that lie within themselves are left out here, and so is the
syntax of documents: what was written is taken to be read again, but for labels.
-/

namespace Conformity.ProfileStore

open Data
open Registry.Edit (printed)

variable {s : ProfileStore} {disk : Disk} {content : Bytes} {root : Data} {r r' : Root}
  {records : Data.Fields} {name : String}

/-! ## Profiles of records -/

/-- The profiles of the records that fit, by the texts of their keys. -/
def declared (records : Data.Fields) : List (String × Profile) :=
  records.filterMap fun e => (Profile.ofRecord e.1.plain e.2).toOption.map (e.1.plain, ·)

theorem declared_bareEntries (records : Data.Fields) :
    declared (bareEntries records) = declared records := by
  unfold declared
  rw [bareEntries_eq_map, List.filterMap_map]
  simp only [Function.comp_def, Scalar.plain_bare, Profile.toOption_ofRecord_bare]

theorem exists_mem_declared_iff :
    (∃ e ∈ declared records, e.1 = name) ↔ ∃ e ∈ records, e.1.plain = name ∧ Profile.IsRecord e.2 := by
  unfold declared
  constructor
  · rintro ⟨e', he', rfl⟩
    obtain ⟨e, he, heq⟩ := List.mem_filterMap.mp he'
    cases hd : Profile.ofRecord e.1.plain e.2 with
    | ok p =>
        rw [hd] at heq
        cases heq
        exact ⟨e, he, rfl, (Profile.ofRecord_eq_ok_iff.mp hd).1⟩
    | error _ =>
        rw [hd] at heq
        cases heq
  · rintro ⟨e, he, rfl, hrecord⟩
    have hd : Profile.ofRecord e.1.plain e.2 = .ok (.ofFields e.1.plain ((e.2.entries?).getD [])) :=
      Profile.ofRecord_eq_ok_iff.mpr ⟨hrecord, rfl⟩
    exact ⟨_, List.mem_filterMap.mpr ⟨e, he, by rw [hd]; rfl⟩, rfl⟩

/-- Removing a key takes away profiles with its text only. -/
theorem filter_declared_erase (records : Data.Fields) (name : String) :
    (declared (erase (.text name) records)).filter (fun e => e.1 != name) =
      (declared records).filter fun e => e.1 != name := by
  unfold declared erase
  rw [List.filter_filterMap, List.filter_filterMap, List.filterMap_filter]
  refine List.filterMap_congr fun e _ => ?_
  split
  · rfl
  · next h =>
    have hkey : e.1 = .text name := Scalar.sameKey_text_iff.mp (by simpa using h)
    rw [hkey]
    cases (Profile.ofRecord (Scalar.plain (.text name)) e.2).toOption <;>
      simp [Scalar.plain, Option.filter]

theorem erase_declared_erase (records : Data.Fields) (name : String) :
    (Table.ofEntries (declared (erase (.text name) records))).erase name =
      (Table.ofEntries (declared records)).erase name := by
  rw [Table.erase_ofEntries, Table.erase_ofEntries, filter_declared_erase]

theorem contentsOf_of_isKnotless (h : isKnotlessEntries records) :
    contentsOf root records = records.map fun e => (e.1.plain, e.2) := by
  unfold contentsOf
  refine List.map_congr_left fun e he => ?_
  rw [unroll_of_isKnotless root unrolling (isKnotlessEntries_iff.mp h e he)]

theorem profiles_contentsOf (root : Data) (h : isKnotlessEntries records) :
    (contentsOf root records).profiles = Table.ofEntries (declared records) := by
  rw [contentsOf_of_isKnotless h, Contents.profiles, List.filterMap_map]
  rfl

/-! ## Documents without knots -/

theorem isKnotless_of_field {es : Data.Fields} {key : String} {d : Data} (h : isKnotlessEntries es)
    (hd : field key es = some d) : d.isKnotless := by
  induction es with
  | nil => cases hd
  | cons e es ih =>
      rw [isKnotlessEntries, Bool.and_eq_true] at h
      rw [field_cons] at hd
      split at hd
      · cases hd
        exact h.1
      · exact ih h.2 hd

theorem Root.isKnotlessEntries_records (h : r.toData.isKnotless) : isKnotlessEntries r.records := by
  unfold Root.records Root.section?
  split
  · next l es hfield => exact isKnotless_of_field h hfield
  · next l hfield => cases isKnotless_of_field h hfield
  · rfl

theorem forall_canBeTold_bareEntries :
    (∀ e ∈ bareEntries records, Profile.CanBeTold e.2) ↔ ∀ e ∈ records, Profile.CanBeTold e.2 := by
  rw [bareEntries_eq_map, List.forall_mem_map]
  simp only [Profile.canBeTold_bare]

/-- A document without knots is read if what is wrong with its records can be told. -/
theorem readRoot_eq_ok_iff {found : ProfilesDocument} (h : r.toData.isKnotless) :
    readRoot r = .ok found ↔ (∀ e ∈ r.records, Profile.CanBeTold e.2) ∧
      ⟨r.globals, Table.ofEntries (declared r.records), r.contents.faults⟩ = found := by
  have hrecords := Root.isKnotlessEntries_records h
  have htold : (∀ e ∈ r.contents, Profile.CanBeTold e.2) ↔ ∀ e ∈ r.records, Profile.CanBeTold e.2 := by
    rw [Root.contents, contentsOf_of_isKnotless hrecords, List.forall_mem_map]
  rw [← htold, ← profiles_contentsOf r.toData hrecords]
  by_cases hcan : ∀ e ∈ r.contents, Profile.CanBeTold e.2
  · rw [readRoot_eq_ok hcan]
    exact ⟨fun heq => ⟨hcan, Except.ok.inj heq⟩, fun heq => congrArg Except.ok heq.2⟩
  · obtain ⟨e, he⟩ := exists_readRoot_eq_error hcan
    rw [he]
    exact iff_of_false (fun heq => nomatch heq) fun heq => hcan heq.1

/-! ## The document that is left -/

/-- The entries of a document without the record under a text. -/
def Root.without (r : Root) (name : String) : Data.Fields :=
  (r.withRecords (erase (.text name) r.records)).entries

/-- Entries are read as they were written, but for labels. -/
def ReadsBack (entries : Data.Fields) : Prop :=
  ∃ d, Yaml.read (printed entries) = .ok d ∧ d.bare = (Data.map 0 entries).bare

theorem Root.exists_field (h : r.toData.isKnotless) (hsome : (Root.section? r.entries).isSome) :
    ∃ label, field profilesKey r.entries = some (.map label r.records) := by
  unfold Root.records Root.section? at *
  split at hsome
  · next l es hfield =>
    rw [hfield]
    exact ⟨l, rfl⟩
  · next l hfield => cases isKnotless_of_field h hfield
  · cases hsome

/-- A record under a text is in the section of profiles. -/
theorem Root.exists_section (h : r.toData.isKnotless) (hname : (field name r.records).isSome) :
    ∃ label, field profilesKey r.entries = some (.map label r.records) := by
  refine Root.exists_field h ?_
  unfold Root.records at hname
  cases hsection : Root.section? r.entries with
  | none =>
      rw [hsection] at hname
      cases hname
  | some es => rfl

theorem Root.field_withRecords {label : Nat} (records : Data.Fields)
    (h : field profilesKey r.entries = some (.map label r.records)) :
    field profilesKey (r.withRecords records).entries = some (.map label records) := by
  unfold withRecords
  rw [h]
  cases label with
  | zero => exact field_insert_self profilesKey _ r.entries
  | succ n =>
      show field profilesKey (replaceEntries (n + 1) records r.entries) = _
      rw [field_replaceEntries, h, Option.map_some, replace, if_pos rfl]

theorem Root.section?_of_field {entries : Data.Fields} {label : Nat}
    (h : field profilesKey entries = some (.map label records)) :
    Root.section? entries = some records := by
  unfold section?
  rw [h]

theorem Root.isKnotlessEntries_withRecords (h : r.toData.isKnotless)
    (hrecords : isKnotlessEntries records) : isKnotlessEntries (r.withRecords records).entries := by
  unfold withRecords
  split
  · exact isKnotlessEntries_insert h (show isKnotless (.map 0 records) from hrecords) _
  · exact isKnotlessEntries_replaceEntries hrecords h
  · exact hrecords
  · exact h

theorem Root.section?_bareEntries (entries : Data.Fields) :
    Root.section? (bareEntries entries) = (section? entries).map bareEntries := by
  unfold section?
  rw [field_bareEntries]
  cases hfield : field profilesKey entries with
  | none => rfl
  | some d =>
      cases d with
      | scalar s => cases s <;> rfl
      | knot l m => cases m <;> rfl
      | _ => rfl

/-- Entries that are read again, but for labels, are those of a root with the records that were
written. -/
theorem rootOf_of_bareEntries {label : Nat} {entries es : Data.Fields}
    (hread : Yaml.read content = .ok (.map label es)) (hbare : bareEntries es = bareEntries entries)
    (hsection : Root.section? entries = some records) : s.rootOf content = .ok ⟨label, es⟩ ∧
      bareEntries (Root.mk label es).records = bareEntries records := by
  have hfound : (Root.section? es).map bareEntries = some (bareEntries records) := by
    rw [← Root.section?_bareEntries, hbare, Root.section?_bareEntries, hsection]
    rfl
  obtain ⟨found, hsome, heq⟩ := Option.map_eq_some_iff.mp hfound
  constructor
  · unfold rootOf
    rw [hread]
    dsimp only [Root.of?]
    rw [hsome]
    rfl
  · unfold Root.records
    rw [hsome]
    exact heq

/-- What is read again after a removal: the records without the one under the text. -/
theorem exists_rootOf_printed (h : r.toData.isKnotless) (hname : (field name r.records).isSome)
    (hround : ReadsBack (r.without name)) :
    ∃ r', s.rootOf (printed (r.without name)) = .ok r' ∧ r'.toData.isKnotless ∧
      bareEntries r'.records = bareEntries (erase (.text name) r.records) := by
  obtain ⟨d, hread, hbare⟩ := hround
  obtain ⟨label, entries, rfl, hentries⟩ := exists_map_of_bare_eq hbare
  obtain ⟨_, hsection⟩ := Root.exists_section h hname
  have hleft := Root.section?_of_field (Root.field_withRecords (erase (.text name) r.records) hsection)
  obtain ⟨hroot, hrecords⟩ := rootOf_of_bareEntries (s := s) hread hentries hleft
  refine ⟨⟨label, entries⟩, hroot, ?_, hrecords⟩
  have herased := isKnotlessEntries_erase (Root.isKnotlessEntries_records h) (.text name)
  show isKnotlessEntries entries
  rw [← isKnotlessEntries_bareEntries, hentries, isKnotlessEntries_bareEntries]
  exact Root.isKnotlessEntries_withRecords h herased

/-! ## Removing -/

/-- Every record of a profile with this name lies under the text itself. -/
def Root.OnlyUnderText (r : Root) (name : String) : Prop :=
  ∀ e ∈ r.records, e.1.plain = name → Profile.IsRecord e.2 → e.1 = .text name

theorem field_isSome_iff {es : Data.Fields} : (field name es).isSome ↔ ∃ e ∈ es, e.1 = .text name := by
  induction es with
  | nil => simp [field, lookup]
  | cons e es ih =>
      rw [field_cons, List.exists_mem_cons_iff, ← ih]
      split <;> simp_all

theorem mem_erase_iff {es : Data.Fields} {e : Scalar × Data} :
    e ∈ erase (.text name) es ↔ e ∈ es ∧ e.1 ≠ .text name := by
  unfold erase
  rw [List.mem_filter, Bool.not_eq_true', ← Bool.not_eq_true, Scalar.sameKey_text_iff]

/-- A profile whose record was removed is gone exactly if it had no other one. -/
theorem not_has_declared_erase_iff :
    ¬ (Table.ofEntries (declared (erase (.text name) r.records))).has name ↔ r.OnlyUnderText name := by
  rw [Table.has_ofEntries, exists_mem_declared_iff]
  constructor
  · intro hnone e he hplain hrecord
    by_contra hne
    exact hnone ⟨e, mem_erase_iff.mpr ⟨he, hne⟩, hplain, hrecord⟩
  · rintro honly ⟨e, he, hplain, hrecord⟩
    obtain ⟨he, hne⟩ := mem_erase_iff.mp he
    exact hne (honly e he hplain hrecord)

section Document

variable (hdocument : s.document disk = some content) (hroot : s.rootOf content = .ok r)

include hdocument hroot

theorem resultOf_remove_of_isNone (hname : field name r.records = none) :
    resultOf (s.remove name) disk = (.ok false, disk) := by
  have hentries : (Registry.Edit.delete name).entries? r = none := by
    show (if (field name r.records).isNone then none else some (r.without name)) = none
    rw [hname]
    rfl
  rw [Registry.Edit.resultOf_remove, Registry.Edit.stored, resultOf_loadRoot_of_document hdocument,
    hroot]
  dsimp only
  rw [hentries]

theorem resultOf_remove_of_isSome {disk' : Disk} (hname : (field name r.records).isSome)
    (hwrite : resultOf (s.writeRoot (r.without name)) disk = (.ok ⟨⟩, disk')) :
    resultOf (s.remove name) disk = (.ok true, disk') := by
  have hentries : (Registry.Edit.delete name).entries? r = some (r.without name) := by
    show (if (field name r.records).isNone then none else some (r.without name)) = _
    rw [if_neg]
    rw [Option.isSome_iff_ne_none] at hname
    simpa using hname
  rw [Registry.Edit.resultOf_remove, Registry.Edit.stored, resultOf_loadRoot_of_document hdocument,
    hroot]
  dsimp only
  rw [hentries]
  dsimp only
  rw [hwrite]
  rfl

end Document

/-- How a removal ends: what it tells, and what is read afterwards. -/
structure RemovesTo (s : ProfileStore) (disk : Disk) (name : String) (found : Bool)
    (after : ProfilesDocument) : Prop where
  told : (resultOf (s.remove name) disk).1 = .ok found
  loads : (resultOf s.load (resultOf (s.remove name) disk).2).1 = .ok after

section Removal

variable {place : Path.Place} (hplace : s.storage.place s.path = .ok place)
  (hdocument : s.document disk = some content) (htakes : disk.Takes (Storage.besides place))
  (hroot : s.rootOf content = .ok r) (hknotless : r.toData.isKnotless)
  (hround : ReadsBack (r.without name))

include hplace hdocument htakes hroot hknotless hround

/-- With its record the profiles that this record declares are gone, and no others. -/
theorem exists_removesTo_of_isSome (htold : ∀ e ∈ r.records, Profile.CanBeTold e.2)
    (hname : (field name r.records).isSome) : ∃ after, s.RemovesTo disk name true after ∧
      after.profiles = Table.ofEntries (declared (erase (.text name) r.records)) := by
  have hfile : disk.content? place = some content := by
    unfold document at hdocument
    rwa [hplace] at hdocument
  obtain ⟨disk', hwrite⟩ := Storage.exists_write_eq_ok hplace hfile htakes (printed (r.without name))
  have hwritten : s.document disk' = some (printed (r.without name)) := document_writeRoot_of_ok hwrite
  -- what was written is another root, whose records are alike
  obtain ⟨r', hroot', hknotless', hrecords⟩ := exists_rootOf_printed (s := s) hknotless hname hround
  have htold' : ∀ e ∈ r'.records, Profile.CanBeTold e.2 := by
    rw [← forall_canBeTold_bareEntries, hrecords, forall_canBeTold_bareEntries]
    exact fun e he => htold e (mem_erase_iff.mp he).1
  have hdeclared : declared r'.records = declared (erase (.text name) r.records) := by
    rw [← declared_bareEntries, hrecords, declared_bareEntries]
  have hremove := resultOf_remove_of_isSome hdocument hroot hname hwrite
  refine ⟨⟨r'.globals, Table.ofEntries (declared r'.records), r'.contents.faults⟩, ⟨?_, ?_⟩, ?_⟩
  · rw [hremove]
  · rw [hremove, resultOf_load_of_document hwritten, hroot']
    exact (readRoot_eq_ok_iff hknotless').mpr ⟨htold', rfl⟩
  · rw [hdeclared]

/-- A removal leaves the other profiles as they are. It is told to have been done if there is a record
under the text of the name, and then the profile is gone exactly if that was its only record. -/
theorem remove_removes_iff {before : ProfilesDocument}
    (hload : (resultOf s.load disk).1 = .ok before) (hname : before.profiles.has name) :
    ∃ found after, s.RemovesTo disk name found after ∧ (found ↔ (field name r.records).isSome) ∧
      (¬ found → (resultOf (s.remove name) disk).2 = disk) ∧
      after.profiles.erase name = before.profiles.erase name ∧
      (found ∧ after.profiles = before.profiles.erase name ↔ r.OnlyUnderText name) := by
  have hbefore := hload
  rw [resultOf_load_of_document hdocument, hroot] at hbefore
  obtain ⟨htold, rfl⟩ := (readRoot_eq_ok_iff hknotless).mp hbefore
  by_cases hsome : (field name r.records).isSome
  · obtain ⟨after, hremoves, hafter⟩ :=
      exists_removesTo_of_isSome hplace hdocument htakes hroot hknotless hround htold hsome
    have hothers := erase_declared_erase r.records name
    refine ⟨true, after, hremoves, by simp [hsome], by simp, by rw [hafter, hothers], ?_⟩
    rw [hafter, ← not_has_declared_erase_iff]
    constructor
    · rintro ⟨-, hgone⟩
      rw [hgone]
      exact Table.not_has_erase _ name
    · intro hgone
      exact ⟨rfl, by rw [← hothers, Table.erase_of_not_has hgone]⟩
  · have hnone : field name r.records = none := by simpa using hsome
    have hremove := resultOf_remove_of_isNone hdocument hroot hnone
    refine ⟨false, _, ⟨by rw [hremove], by rw [hremove, hload]⟩, by simp [hsome],
      fun _ => by rw [hremove], rfl, iff_of_false (by simp) fun honly => ?_⟩
    -- the profile is declared under another key
    obtain ⟨e, he, hplain, hrecord⟩ := exists_mem_declared_iff.mp (Table.has_ofEntries.mp hname)
    exact hsome (field_isSome_iff.mpr ⟨e, he, honly e he hplain hrecord⟩)

end Removal

open Registry (kept unread document_unread)

/-- A document with a profile and one that extends it. -/
def twoProfiles : Bytes := bytesOf
  "profiles:
  base:
    description: root
  child:
    extends: base
"

/-- The profile is removed, and the one that extends it stays. -/
theorem remove_removes_base :
    ∃ before after, (resultOf kept.load (unread twoProfiles).disk).1 = .ok before ∧
      before.profiles.has "base" ∧ kept.RemovesTo (unread twoProfiles).disk "base" true after ∧
      after.profiles = before.profiles.erase "base" := by
  obtain ⟨before, hload, hname⟩ := exists_eq_ok_of_any
    (by decide +kernel : (resultOf kept.load (unread twoProfiles).disk).1.toOption.any
      fun found => found.profiles.has "base")
  obtain ⟨r, hroot, hr⟩ := exists_eq_ok_of_any
    (by decide +kernel : (kept.rootOf twoProfiles).toOption.any fun r => r.toData.isKnotless &&
      (Yaml.read (printed (r.without "base"))).toOption.any
        (fun d => d.isAlike (.map 0 (r.without "base"))) &&
      r.records.all fun e => e.1.plain != "base" || e.1 == .text "base")
  rw [Bool.and_eq_true, Bool.and_eq_true] at hr
  obtain ⟨⟨hknotless, hread⟩, htexts⟩ := hr
  obtain ⟨d, hd, halike⟩ := exists_eq_ok_of_any hread
  have honly : r.OnlyUnderText "base" := by
    intro e he hplain _
    have htext := List.all_eq_true.mp htexts e he
    simpa [hplain] using htext
  have hround : ReadsBack (r.without "base") := ⟨d, hd, bare_eq_of_isAlike halike⟩
  obtain ⟨found, after, hremoves, -, -, -, hgone⟩ := remove_removes_iff rfl
    (document_unread twoProfiles) (.inr rfl) hroot hknotless hround hload hname
  obtain ⟨rfl, heq⟩ := hgone.mpr honly
  exact ⟨before, after, hload, hname, hremoves, heq⟩

/-- A document with a profile under a number. -/
def numberedProfile : Bytes := bytesOf
  "profiles:
  2024:
    description: year
"

/-- A profile under a number is served, and is not found to be removed. -/
theorem remove_misses_number :
    ∃ before, (resultOf kept.load (unread numberedProfile).disk).1 = .ok before ∧
      before.profiles.has "2024" ∧
      (resultOf (kept.remove "2024") (unread numberedProfile).disk).1 ≠ .ok true := by
  obtain ⟨before, hload, hname⟩ := exists_eq_ok_of_any
    (by decide +kernel : (resultOf kept.load (unread numberedProfile).disk).1.toOption.any
      fun found => found.profiles.has "2024")
  obtain ⟨found, hremove, hfalse⟩ := exists_eq_ok_of_any
    (by decide +kernel : (resultOf (kept.remove "2024") (unread numberedProfile).disk).1.toOption.any
      fun found => !found)
  refine ⟨before, hload, hname, ?_⟩
  rw [hremove]
  rintro heq
  cases heq
  cases hfalse

end Conformity.ProfileStore

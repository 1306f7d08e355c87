import Conformity.Proofs.Profile.Change

/-!
# What changes leave alone

Each change of the profiles document does its part and keeps the rest, in its order, after any
changes before it (`ProfileStore.frame_of_changes`). A profile that was put is read again as soon as
the other records can be told; one that cannot hides all profiles (`load_fails_beside_mixed`). A
section that mentions the profiles once more changes with them (`backup_follows_put`).
-/

namespace Conformity.ProfileStore

open Data
open Registry.Edit (printed)

variable {s : ProfileStore} {disk : Disk} {r r₀ r₁ : Root} {records : Fields} {name : String}

/-! ## Records under texts -/

theorem mem_of_field {d : Data} (h : field name records = some d) : (.text name, d) ∈ records := by
  induction records with
  | nil => cases h
  | cons e es ih =>
      rw [field_cons] at h
      split at h
      · next heq => exact List.mem_cons.mpr (.inl (by rw [← heq, ← Option.some.inj h]))
      · exact List.mem_cons_of_mem _ (ih h)

theorem nodup_plain_of_hasNames (h : HasNames records) : (records.map fun e => e.1.plain).Nodup := by
  obtain ⟨names, hnodup, hkeys⟩ := h
  have hplain : (records.map fun e => e.1.plain) = (keys records).map Scalar.plain := by
    rw [keys, List.map_map]
    simp [Function.comp_def]
  rw [hplain, hkeys, List.map_map]
  simpa [Function.comp_def, Scalar.plain] using hnodup

theorem names_declared_sublist (records : Fields) :
    (Table.names (declared records)).Sublist (records.map fun e => e.1.plain) := by
  induction records with
  | nil => exact List.Sublist.slnil
  | cons e es ih =>
      unfold declared at ih ⊢
      rw [List.filterMap_cons, List.map_cons]
      cases (Profile.ofRecord e.1.plain e.2).toOption with
      | none => exact ih.cons _
      | some p => exact ih.cons_cons _

theorem field_of_mem {e : Scalar × Data} (h : HasNames records) (he : e ∈ records)
    (hname : e.1 = .text name) : field name records = some e.2 := by
  obtain ⟨names, hnodup, hkeys⟩ := h
  have hkeysNodup : (keys records).Nodup := by
    rw [hkeys]
    exact hnodup.map fun _ _ => Scalar.text.inj
  clear hkeys
  induction records with
  | nil => cases he
  | cons e' es ih =>
      rw [keys, List.map_cons, List.nodup_cons] at hkeysNodup
      rw [field_cons]
      rcases List.mem_cons.mp he with rfl | he
      · rw [if_pos hname]
      · have hne : e'.1 ≠ .text name := by
          intro heq
          refine hkeysNodup.1 (List.mem_map.mpr ⟨e, he, ?_⟩)
          rw [hname, heq]
        rw [if_neg hne]
        exact ih he hkeysNodup.2

/-- A record under a text is the profile with this name. -/
theorem get?_declared_of_field {d : Data} {p : Profile} (h : HasNames records)
    (hd : field name records = some d) (hp : Profile.ofRecord name d = .ok p) :
    (Table.ofEntries (declared records)).get? name = some p := by
  have hmem : (name, p) ∈ declared records := by
    refine List.mem_filterMap.mpr ⟨_, mem_of_field hd, ?_⟩
    show (Profile.ofRecord name d).toOption.map _ = _
    rw [hp]
    rfl
  have hnodup : (Table.names (declared records).reverse).Nodup := by
    have hnames : Table.names (declared records).reverse = (Table.names (declared records)).reverse :=
      List.map_reverse
    rw [hnames, List.nodup_reverse]
    exact (nodup_plain_of_hasNames h).sublist (names_declared_sublist records)
  rw [Table.get?_ofEntries]
  exact Table.get?_of_mem hnodup (List.mem_reverse.mpr hmem)

/-! ## What each change does and keeps -/

/-- The records of profiles change, and no other section. -/
structure KeepsSections (r₀ r₁ : Root) : Prop where
  keys : keys r₁.entries = keys r₀.entries
  others : bareEntries (erase (.text profilesKey) r₁.entries) =
    bareEntries (erase (.text profilesKey) r₀.entries)

/-- A profile is put in its place, or behind the others, and can be read as soon as the other records
can be told. -/
structure Puts (s : ProfileStore) (disk : Disk) (p : Profile) (r₀ r₁ : Root) : Prop
    extends KeepsSections r₀ r₁ where
  told : (resultOf (s.put p) disk).1 = .ok ⟨⟩
  record : (field p.name r₁.records).map bare = some p.record
  names : Data.keys r₁.records =
    if (field p.name r₀.records).isSome then Data.keys r₀.records
    else Data.keys r₀.records ++ [.text p.name]
  records : bareEntries (erase (.text p.name) r₁.records) =
    bareEntries (erase (.text p.name) r₀.records)
  loads : (∃ found, (resultOf s.load (resultOf (s.put p) disk).2).1 = .ok found) ↔
    ∀ e ∈ r₀.records, e.1 ≠ .text p.name → Profile.CanBeTold e.2
  profile : ∀ found, (resultOf s.load (resultOf (s.put p) disk).2).1 = .ok found →
    ∃ q, Profile.ofRecord p.name p.record = .ok q ∧ found.profiles.get? p.name = some q

/-- A record is removed; nothing is written if there is none. -/
structure Removes (s : ProfileStore) (disk : Disk) (name : String) (r₀ r₁ : Root) : Prop
    extends KeepsSections r₀ r₁ where
  absent : field name r₀.records = none → resultOf (s.remove name) disk = (.ok false, disk)
  told : (field name r₀.records).isSome → (resultOf (s.remove name) disk).1 = .ok true
  records : bareEntries r₁.records = bareEntries (erase (.text name) r₀.records)

/-- The section of global assertions is replaced, in front of the others; the complete assertions come
back trimmed. -/
structure ReplacesGlobals (s : ProfileStore) (disk : Disk) (globals : Assertions) (r₀ r₁ : Root) :
    Prop where
  told : (resultOf (s.putGlobals globals) disk).1 = .ok ⟨⟩
  sections : bareEntries r₁.entries =
    (if globals.isEmpty then [] else [(.text assertionsKey, globals.record)]) ++
      bareEntries (erase (.text assertionsKey) r₀.entries)
  records : bareEntries r₁.records = bareEntries r₀.records
  loads : (∃ found, (resultOf s.load (resultOf (s.putGlobals globals) disk).2).1 = .ok found) ↔
    ∀ e ∈ r₀.records, Profile.CanBeTold e.2
  served : (globals.map fun e => Text.trim e.1).Nodup →
    ∀ found, (resultOf s.load (resultOf (s.putGlobals globals) disk).2).1 = .ok found →
      found.globals = (globals.map fun e => (Text.trim e.1, e.2.filterMap Assertion.saved?)).filter
        fun e => !e.2.isEmpty

/-- What a change does and keeps, the document having one root before and one afterwards. -/
def Frames (s : ProfileStore) (disk : Disk) (r₀ r₁ : Root) : Change → Prop
  | .put p => s.Puts disk p r₀ r₁
  | .remove name => s.Removes disk name r₀ r₁
  | .putGlobals globals => s.ReplacesGlobals disk globals r₀ r₁

theorem resultOf_of_resultOf_run {x : Disk.Action Unit} {told : Bool} {disk' : Disk}
    (h : resultOf (x >>= fun _ => Pure.pure true) disk = (.ok told, disk')) :
    resultOf x disk = (.ok ⟨⟩, disk') := by
  obtain ⟨_, disk₁, hx, hrest⟩ := resultOf_bind_eq_ok h
  cases hrest
  exact hx

section Loading

variable {disk' : Disk} (h₁ : s.Holds disk' r₁)

include h₁

/-- A document that is fit for changes is loaded if its records can be told. -/
theorem exists_load_iff : (∃ found, (resultOf s.load disk').1 = .ok found) ↔
    ∀ e ∈ r₁.records, Profile.CanBeTold e.2 := by
  rw [h₁.load_eq]
  constructor
  · rintro ⟨found, hfound⟩
    exact ((readRoot_eq_ok_iff h₁.knotless).mp hfound).1
  · intro htold
    exact ⟨_, (readRoot_eq_ok_iff h₁.knotless).mpr ⟨htold, rfl⟩⟩

theorem profiles_of_load {found : ProfilesDocument} (hload : (resultOf s.load disk').1 = .ok found) :
    found.profiles = Table.ofEntries (declared r₁.records) ∧ found.globals = r₁.globals := by
  rw [h₁.load_eq] at hload
  obtain ⟨-, rfl⟩ := (readRoot_eq_ok_iff h₁.knotless).mp hload
  exact ⟨rfl, rfl⟩

end Loading

/-- What is written with other records keeps the other sections. -/
theorem keepsSections_of_withRecords (h₀ : s.Holds disk r₀) {records : Fields}
    (hentries : bareEntries r₁.entries = bareEntries (r₀.withRecords records).entries) :
    KeepsSections r₀ r₁ := by
  obtain ⟨label, hsection⟩ := h₀.exists_section
  rw [bareEntries_withRecords hsection h₀.unshared] at hentries
  constructor
  · rw [← keys_bareEntries, hentries, keys_insert, if_pos, keys_bareEntries]
    rw [field_bareEntries, hsection]
    rfl
  · rw [bareEntries_erase, hentries, erase_insert, bareEntries_erase]

section Put

variable {p : Profile}
  (hrecords : bareEntries r₁.records = bareEntries (insert (.text p.name) p.record r₀.records))

include hrecords

/-- The record that was put is read again. -/
theorem record_of_put : (field p.name r₁.records).map bare = some p.record := by
  rw [← field_bareEntries, hrecords, field_bareEntries, field_insert_self, Option.map_some,
    bare_of_isFresh p.isFresh_record]

theorem others_of_put : bareEntries (erase (.text p.name) r₁.records) =
    bareEntries (erase (.text p.name) r₀.records) := by
  rw [bareEntries_erase, hrecords, ← bareEntries_erase, erase_insert]

variable (hnames : HasNames r₁.records)

include hnames

/-- Whether the records can be told is up to the other ones. -/
theorem canBeTold_of_put : (∀ e ∈ r₁.records, Profile.CanBeTold e.2) ↔
    ∀ e ∈ r₀.records, e.1 ≠ .text p.name → Profile.CanBeTold e.2 := by
  have hothers : (∀ e ∈ erase (.text p.name) r₁.records, Profile.CanBeTold e.2) ↔
      ∀ e ∈ erase (.text p.name) r₀.records, Profile.CanBeTold e.2 := by
    rw [← forall_canBeTold_bareEntries, others_of_put hrecords, forall_canBeTold_bareEntries]
  constructor
  · intro h e he hne
    exact hothers.mp (fun e he => h e (mem_erase_iff.mp he).1) e (mem_erase_iff.mpr ⟨he, hne⟩)
  · intro h e he
    by_cases hname : e.1 = .text p.name
    · have hrecord := record_of_put hrecords
      rw [field_of_mem hnames he hname] at hrecord
      have hbare : e.2.bare = p.record := Option.some.inj hrecord
      rw [← Profile.canBeTold_bare, hbare]
      exact Profile.canBeTold_of_isRecord p.isRecord_record
    · have hold : ∀ e ∈ erase (.text p.name) r₀.records, Profile.CanBeTold e.2 := fun e he =>
        h e (mem_erase_iff.mp he).1 (mem_erase_iff.mp he).2
      exact hothers.mpr hold e (mem_erase_iff.mpr ⟨he, hname⟩)

theorem get?_of_put : (Table.ofEntries (declared r₁.records)).get? p.name = some p.saved := by
  obtain ⟨d, hd, hbare⟩ := Option.map_eq_some_iff.mp (record_of_put hrecords)
  have hread : Profile.ofRecord p.name d = .ok p.saved := by
    rw [← Profile.ofRecord_bare_eq_ok_iff, hbare]
    exact p.ofRecord_record
  exact get?_declared_of_field hnames hd hread

end Put

section Globals

variable {globals : Assertions} (hknotless : r₁.toData.isKnotless)
  (hentries : bareEntries r₁.entries =
    bareEntries (Change.globalsSection globals ++ erase (.text assertionsKey) r₀.entries))

include hentries

theorem sections_of_putGlobals : bareEntries r₁.entries =
    (if globals.isEmpty then [] else [(.text assertionsKey, globals.record)]) ++
      bareEntries (erase (.text assertionsKey) r₀.entries) := by
  have hfront : bareEntries (Change.globalsSection globals) = Change.globalsSection globals := by
    unfold Change.globalsSection
    split
    · rfl
    · rw [bareEntries, bareEntries, bare_of_isFresh globals.isFresh_record]
      rfl
  rw [hentries, bareEntries_eq_map, List.map_append, ← bareEntries_eq_map, ← bareEntries_eq_map,
    hfront]
  rfl

include hknotless

/-- The assertions that were given come back. -/
theorem globals_of_putGlobals : r₁.globals = savedSection Assertion.saved? globals := by
  have hfield : ((field assertionsKey r₁.entries).getD .null).bare =
      if globals.isEmpty then .null else globals.record := by
    rw [← getD_field_bareEntries, sections_of_putGlobals hentries, field_append, bareEntries_erase,
      field_erase_self]
    split
    · rfl
    · rw [field_cons, if_pos rfl]
      rfl
  have hvalue : ((field assertionsKey r₁.entries).getD .null).isKnotless := by
    cases hd : field assertionsKey r₁.entries with
    | none => rfl
    | some d => exact isKnotless_of_field hknotless hd
  unfold Root.globals
  rw [unroll_of_isKnotless _ _ hvalue]
  by_cases hempty : globals.isEmpty
  · rw [if_pos hempty] at hfield
    have hnone : ((field assertionsKey r₁.entries).getD .null).entries? = none := by
      have hentries := congrArg entries? hfield
      rw [entries?_bare] at hentries
      exact Option.map_eq_none_iff.mp hentries
    rw [Assertions.ofSection, sectionOf, hnone, List.isEmpty_iff.mp hempty]
    rfl
  · rw [if_neg hempty, ← bare_of_isFresh globals.isFresh_record] at hfield
    rw [Assertions.ofSection_of_bare_eq hfield]
    exact sectionOf_sectionRecord Assertion.ofRecord?_record globals

end Globals

/-- Each change does its part and keeps the rest. -/
theorem Holds.frames_of_step (h₀ : s.Holds disk r₀) (c : Change)
    (hback : ∀ entries, c.entries? r₀ = some entries → ReadsBackUnshared entries) :
    ∃ r₁, s.Holds (resultOf (c.run s) disk).2 r₁ ∧ s.Frames disk r₀ r₁ c := by
  obtain ⟨disk', r₁, hrun, h₁, hrecords, habsent, hentries⟩ := h₀.step c hback
  refine ⟨r₁, by rwa [hrun], ?_⟩
  cases c with
  | put p =>
      have hput : resultOf (s.put p) disk = (.ok ⟨⟩, disk') := resultOf_of_resultOf_run hrun
      have hnames : Data.keys r₁.records =
          if (field p.name r₀.records).isSome then Data.keys r₀.records
          else Data.keys r₀.records ++ [.text p.name] := by
        rw [← keys_insert p.name p.record, ← keys_bareEntries, hrecords, keys_bareEntries]
        rfl
      refine ⟨keepsSections_of_withRecords h₀ (hentries _ rfl), by rw [hput],
        record_of_put hrecords, hnames, others_of_put hrecords, ?_, ?_⟩
      · rw [hput, exists_load_iff h₁]
        exact canBeTold_of_put hrecords h₁.names
      · intro found hload
        rw [hput] at hload
        rw [(profiles_of_load h₁ hload).1]
        exact ⟨p.saved, p.ofRecord_record, get?_of_put hrecords h₁.names⟩
  | remove name =>
      have hremove : resultOf (s.remove name) disk = _ := hrun
      by_cases hnone : field name r₀.records = none
      · have hnothing : (Change.remove name).entries? r₀ = none := by
          show (if (field name r₀.records).isNone then none else _) = none
          rw [hnone]
          rfl
        obtain ⟨rfl, rfl⟩ := habsent hnothing
        rw [hnothing] at hremove
        exact ⟨⟨rfl, rfl⟩, fun _ => hremove, fun hsome => by simp [hnone] at hsome, hrecords⟩
      · have hwrites : (Change.remove name).entries? r₀ =
            some (r₀.withRecords ((Change.remove name).after r₀.records)).entries := by
          show (if (field name r₀.records).isNone then none else _) = _
          rw [if_neg (by simpa using hnone)]
        rw [hwrites] at hremove
        exact ⟨keepsSections_of_withRecords h₀ (hentries _ hwrites), fun heq => absurd heq hnone,
          fun _ => by rw [hremove]; rfl, hrecords⟩
  | putGlobals globals =>
      have hput : resultOf (s.putGlobals globals) disk = (.ok ⟨⟩, disk') :=
        resultOf_of_resultOf_run hrun
      have htold : (∀ e ∈ r₁.records, Profile.CanBeTold e.2) ↔
          ∀ e ∈ r₀.records, Profile.CanBeTold e.2 := by
        rw [← forall_canBeTold_bareEntries, hrecords, forall_canBeTold_bareEntries]
        rfl
      refine ⟨by rw [hput], sections_of_putGlobals (hentries _ rfl), hrecords, ?_, ?_⟩
      · rw [hput, exists_load_iff h₁, htold]
      · intro hdistinct found hload
        rw [hput] at hload
        rw [(profiles_of_load h₁ hload).2, globals_of_putGlobals h₁.knotless (hentries _ rfl),
          savedSection_of_nodup _ hdistinct]

/-! ## Changes one after the other -/

/-- The disk after changes. -/
def after (s : ProfileStore) (cs : List Change) (disk : Disk) : Disk :=
  cs.foldl (fun disk c => (resultOf (c.run s) disk).2) disk

/-- What changes write, one after the other. -/
def written (s : ProfileStore) : List Change → Disk → List Fields
  | [], _ => []
  | c :: cs, disk =>
    (match (resultOf s.loadRoot disk).1 with
      | .ok r => (c.entries? r).toList
      | .error _ => []) ++ written s cs (resultOf (c.run s) disk).2

/-- After any changes a document is fit for a change, which does its part and keeps the rest. -/
theorem frame_of_changes (h : s.Holds disk r) (before : List Change) (c : Change)
    (hback : ∀ entries ∈ s.written (before ++ [c]) disk, ReadsBackUnshared entries) :
    ∃ r₀ r₁, s.Holds (s.after before disk) r₀ ∧ s.Holds (s.after (before ++ [c]) disk) r₁ ∧
      s.Frames (s.after before disk) r₀ r₁ c := by
  -- by the changes before; each of them leaves a document that is fit for the next one
  induction before generalizing disk r with
  | nil =>
      rw [List.nil_append, written, h.loadRoot_eq, written, List.append_nil] at hback
      obtain ⟨r₁, h₁, hframes⟩ := h.frames_of_step c fun entries hentries =>
        hback entries (Option.mem_toList.mpr hentries)
      exact ⟨r, r₁, h, h₁, hframes⟩
  | cons c' before ih =>
      rw [List.cons_append, written, h.loadRoot_eq, List.forall_mem_append] at hback
      obtain ⟨r', h', -⟩ := h.frames_of_step c' fun entries hentries =>
        hback.1 entries (Option.mem_toList.mpr hentries)
      exact ih h' hback.2

open Registry (kept unread)
open Registry.Edit (late)

/-- A document with two profiles and a section of its own. -/
def notedProfiles : Bytes := bytesOf
  "note: keep
profiles:
  base:
    description: root
  child:
    extends: base
"

/-- Assertions of which one has a blank before its context and the other has no texts. -/
def spaced : Assertions := [("UBLTR_MAIN ", [⟨some " /a", some "b", some "no b", none⟩, {}])]

theorem frame_of_changes_of_spaced :
    ∃ r r₀ r₁, kept.Holds (unread notedProfiles).disk r ∧
      kept.Puts (kept.after [.putGlobals spaced] (unread notedProfiles).disk) late r₀ r₁ := by
  obtain ⟨r, hroot, hr⟩ := exists_eq_ok_of_any
    (by decide +kernel : (kept.rootOf notedProfiles).toOption.any fun r => r.toData.isKnotless &&
      decide (IsUnshared r.entries) && decide (keys r.records = ["base", "child"].map .text))
  rw [Bool.and_eq_true, Bool.and_eq_true] at hr
  obtain ⟨⟨hknotless, hunshared⟩, hkeys⟩ := hr
  have hholds : kept.Holds (unread notedProfiles).disk r :=
    ⟨⟨_, notedProfiles, rfl, rfl, .inr rfl, hroot⟩, hknotless, of_decide_eq_true hunshared,
      ["base", "child"], by decide, of_decide_eq_true hkeys⟩
  have hread : (kept.written ([.putGlobals spaced] ++ [.put late]) (unread notedProfiles).disk).all
      fun entries => (Yaml.read (printed entries)).toOption.any fun d =>
        (d.entries?).any fun es => areAlikeEntries es entries && decide (IsUnshared es) := by
    decide +kernel
  obtain ⟨r₀, r₁, -, -, hframes⟩ := frame_of_changes hholds [.putGlobals spaced] (.put late) <| by
    intro entries hentries
    obtain ⟨d, hd, hany⟩ := exists_eq_ok_of_any (List.all_eq_true.mp hread entries hentries)
    cases d with
    | map label es =>
        rw [entries?, Option.any_some, Bool.and_eq_true] at hany
        exact ⟨label, es, hd, bareEntries_eq_of_areAlike hany.1, fun _ => of_decide_eq_true hany.2⟩
    | _ => cases hany
  exact ⟨r, r₀, r₁, hholds, hframes⟩

open Registry (mixedKeys)

/-- Beside a record that cannot be told a profile that was put is not read, nor is any other. -/
theorem load_fails_beside_mixed :
    ∃ disk, resultOf (kept.put late) (unread mixedKeys).disk = (.ok ⟨⟩, disk) ∧
      ¬ ∃ found, (resultOf kept.load disk).1 = .ok found := by
  obtain ⟨u, hput, -⟩ := exists_eq_ok_of_any (by decide +kernel :
    (resultOf (kept.put late) (unread mixedKeys).disk).1.toOption.any fun _ => true)
  have hwritten : (kept.document (resultOf (kept.put late) (unread mixedKeys).disk).2).any
      fun content => (kept.rootOf content).toOption.any fun r => (readRoot r).toOption.isNone := by
    decide +kernel
  obtain ⟨content, hcontent, hread⟩ := Option.any_eq_true _ _ |>.mp hwritten
  obtain ⟨r, hroot, hnone⟩ := exists_eq_ok_of_any hread
  refine ⟨_, resultOf_eq hput, ?_⟩
  rintro ⟨found, hfound⟩
  rw [resultOf_load_of_document hcontent, hroot] at hfound
  have hok : readRoot r = .ok found := hfound
  rw [hok] at hnone
  cases hnone

/-- A document with a section that mentions the section of profiles. -/
def backedUp : Bytes := bytesOf
  "profiles: &p
  base: null
backup: *p
"

/-- The names in the section that mentions the profiles. -/
def backupNames (r : Root) : Option (List Scalar) :=
  ((field "backup" r.entries).bind entries?).map keys

/-- A section that mentions the profiles changes with them. -/
theorem backup_follows_put :
    ∃ disk content r₀ r₁, kept.rootOf backedUp = .ok r₀ ∧
      resultOf (kept.put late) (unread backedUp).disk = (.ok ⟨⟩, disk) ∧
      kept.document disk = some content ∧ kept.rootOf content = .ok r₁ ∧
      backupNames r₀ = some [.text "base"] ∧
      backupNames r₁ = some [.text "base", .text "late"] := by
  obtain ⟨r₀, hr₀, hbefore⟩ := exists_eq_ok_of_any (by decide +kernel :
    (kept.rootOf backedUp).toOption.any fun r => decide (backupNames r = some [.text "base"]))
  obtain ⟨u, hput, -⟩ := exists_eq_ok_of_any (by decide +kernel :
    (resultOf (kept.put late) (unread backedUp).disk).1.toOption.any fun _ => true)
  have hwritten : (kept.document (resultOf (kept.put late) (unread backedUp).disk).2).any
      fun content => (kept.rootOf content).toOption.any fun r =>
        decide (backupNames r = some [.text "base", .text "late"]) := by decide +kernel
  obtain ⟨content, hcontent, hroot⟩ := Option.any_eq_true _ _ |>.mp hwritten
  obtain ⟨r₁, hr₁, hafter⟩ := exists_eq_ok_of_any hroot
  exact ⟨_, content, r₀, r₁, hr₀, resultOf_eq hput, hcontent, hr₁, of_decide_eq_true hbefore,
    of_decide_eq_true hafter⟩

end Conformity.ProfileStore

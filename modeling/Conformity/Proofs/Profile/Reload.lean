import Conformity.Proofs.Profile.Contents
import Conformity.Proofs.Profile.Document

/-!
# What a reload serves

A reload of a profiles document comes to an end if what is wrong with its records can be told and if
no pattern is beyond a limit; then it serves every profile whose record fits and whose way up ends
well, and reports everything else. If a record cannot be told or a pattern is beyond a limit, the
reload breaks off and the old snapshot stays (`Registry.reload_serves_iff`). What is served for a
profile does not depend on records that are not on its way up.
-/

namespace Conformity

/-! ## Snapshots of neighbouring documents -/

namespace Contents

variable {before after : Contents} {k : String} {d d' : Data} {name : String}

/-- A record says nothing of other names. -/
theorem get?_profiles_insert (h : name ≠ k) :
    (profiles (before ++ (k, d) :: after)).get? name = (profiles (before ++ after)).get? name := by
  unfold profiles
  rw [Table.get?_ofEntries, Table.get?_ofEntries, List.filterMap_append, List.filterMap_append,
    List.filterMap_cons, List.reverse_append, List.reverse_append, Table.get?_append,
    Table.get?_append]
  cases Profile.ofRecord k d with
  | ok p => simp [Except.toOption, Table.get?_append, Table.get?_cons, h.symm]
  | error e => rfl

/-- With another record under a name, the way up from a profile that does not pass through the name
ends as it did. -/
theorem settles_congr (h : ∀ ns, Ascent (profiles (before ++ (k, d) :: after)) name ns → k ∉ ns)
    {o : Except InheritanceFault Profile} :
    Settles (profiles (before ++ (k, d') :: after)) name o ↔
      Settles (profiles (before ++ (k, d) :: after)) name o := by
  have hsame : ∀ ns, Ascent (profiles (before ++ (k, d) :: after)) name ns → ∀ n ∈ ns,
      (profiles (before ++ (k, d') :: after)).get? n =
        (profiles (before ++ (k, d) :: after)).get? n := by
    intro ns hns n hn
    have hne : n ≠ k := fun heq => h ns hns (heq ▸ hn)
    rw [get?_profiles_insert hne, get?_profiles_insert hne]
  refine ⟨fun hsettles => ?_, fun hsettles => hsettles.congr hsame⟩
  -- what becomes of the name in the first document is also what becomes of it in the second
  have hfound := (Resolver.outcome_eq_iff (allProper_profiles (before ++ (k, d) :: after))).mp
    (rfl : Resolver.outcome _ name = _)
  rwa [hsettles.unique (hfound.congr hsame)]

end Contents

/-- A snapshot serves for a profile what it would serve with another record that is not on its way
up. -/
theorem Snapshot.Serves.congr {before after : Contents} {k name : String} {d d' : Data}
    {s s' : Snapshot} (hs : s.Serves (before ++ (k, d) :: after))
    (hs' : s'.Serves (before ++ (k, d') :: after))
    (h : ∀ ns, Ascent (Contents.profiles (before ++ (k, d) :: after)) name ns → k ∉ ns) :
    s'.profiles.get? name = s.profiles.get? name ∧ s'.matchersOf name = s.matchersOf name := by
  have hprofiles : s'.profiles.get? name = s.profiles.get? name := by
    refine Option.ext fun p => ?_
    rw [hs.profiles, hs'.profiles]
    exact Contents.settles_congr h
  exact ⟨hprofiles, by rw [hs.matchers, hs'.matchers, hprofiles]⟩

/-! ## Reloading -/

/-- What is wrong with each record can be told, and no pattern of a served profile is beyond a
limit. -/
structure Contents.Bearable (cs : Contents) : Prop where
  records : ∀ e ∈ cs, Profile.CanBeTold e.2
  patterns : cs.WithinLimits

theorem ReloadResult.errors_ofCount (component : String) (count elapsed : Int)
    (errors : List String) : (ofCount component count elapsed errors).errors = errors := by
  unfold ofCount
  split
  · next h => exact (List.isEmpty_iff.mp h).symm
  · split <;> rfl

namespace ProfileStore

variable {content : Bytes} {label : Nat} {entries : Data.Fields}

/-- Every document that is a mapping has a root. -/
theorem exists_rootOf (store : ProfileStore) (h : Yaml.read content = .ok (.map label entries)) :
    ∃ r, store.rootOf content = .ok r := by
  unfold rootOf
  rw [h]
  exact ⟨_, rfl⟩

/-- The root of an empty document has no label. -/
theorem exists_map_of_rootOf {store : ProfileStore} {r : Root} (h : store.rootOf content = .ok r)
    (hlabel : r.label ≠ 0) : ∃ label entries, Yaml.read content = .ok (.map label entries) := by
  unfold rootOf at h
  split at h
  · cases h
  · next d hread =>
    cases d with
    | map label entries => exact ⟨label, entries, hread⟩
    | scalar s =>
        cases s with
        | null =>
            cases h
            exact absurd rfl hlabel
        | _ => cases h
    | _ => cases h

/-- Whether a document can be reloaded is told by reading its records and their patterns. -/
theorem bearable_iff {r : Root} : r.contents.Bearable ↔
    ((readRoot r).toOption.bind fun found => (Snapshot.ofDocument found).toOption).isSome := by
  by_cases hrecords : ∀ e ∈ r.contents, Profile.CanBeTold e.2
  · rw [readRoot_eq_ok hrecords]
    by_cases hpatterns : r.contents.WithinLimits
    · obtain ⟨s, faults, hs, -⟩ := Snapshot.ofDocument_eq_ok r.globals hpatterns
      refine iff_of_true ⟨hrecords, hpatterns⟩ ?_
      simp [Except.toOption, hs]
    · obtain ⟨l, hl⟩ := Snapshot.exists_ofDocument_eq_error r.globals hpatterns
      refine iff_of_false (fun h => hpatterns h.patterns) ?_
      simp [Except.toOption, hl]
  · obtain ⟨e, he⟩ := exists_readRoot_eq_error hrecords
    refine iff_of_false (fun h => hrecords h.records) ?_
    simp [Except.toOption, he]

instance (r : Root) : Decidable r.contents.Bearable := decidable_of_iff _ bearable_iff.symm

end ProfileStore

namespace Registry

open ProfileStore

variable {store : ProfileStore} {st : RegistryState} {content : Bytes} {label : Nat}
  {entries : Data.Fields} {r : Root}

/-- A reload comes to its end with a snapshot that serves a document, and reports what is wrong with
it. -/
structure ReloadsTo (store : ProfileStore) (st : RegistryState) (r : Root) (result : ReloadResult)
    (snapshot : Snapshot) : Prop where
  ends : resultOf (reload store) st = (.ok result, { st with snapshot })
  serves : snapshot.Serves r.contents
  globals : snapshot.globals = r.globals
  errors : ∀ text, text ∈ result.errors ↔ r.contents.IsFault text

theorem exists_reloadsTo (hcontent : store.document st.disk = some content)
    (hroot : store.rootOf content = .ok r) (h : r.contents.Bearable) :
    ∃ result snapshot, ReloadsTo store st r result snapshot := by
  obtain ⟨snapshot, faults, hdocument, hglobals, hserves, hfaults⟩ :=
    Snapshot.ofDocument_eq_ok r.globals h.patterns
  refine ⟨.ofCount component snapshot.profiles.length 0 faults, snapshot, ?_, hserves, hglobals, ?_⟩
  · rw [resultOf_reload_of_document hcontent, hroot]
    show reloaded (readRoot r) st = _
    rw [readRoot_eq_ok h.records]
    unfold reloaded
    dsimp only
    rw [hdocument]
  · intro text
    rw [ReloadResult.errors_ofCount]
    exact hfaults text

/-- A reload that breaks off changes nothing. -/
theorem exists_reload_eq_error (hcontent : store.document st.disk = some content)
    (hroot : store.rootOf content = .ok r) (h : ¬ r.contents.Bearable) :
    ∃ e, resultOf (reload store) st = (.error e, st) := by
  rw [resultOf_reload_of_document hcontent, hroot]
  show ∃ e, reloaded (readRoot r) st = _
  unfold reloaded
  by_cases hrecords : ∀ e ∈ r.contents, Profile.CanBeTold e.2
  · rw [readRoot_eq_ok hrecords]
    dsimp only
    obtain ⟨l, hl⟩ := Snapshot.exists_ofDocument_eq_error r.globals fun hpatterns =>
      h ⟨hrecords, hpatterns⟩
    rw [hl]
    exact ⟨_, rfl⟩
  · obtain ⟨e, he⟩ := exists_readRoot_eq_error hrecords
    rw [he]
    exact ⟨.route e, rfl⟩

/-- A document that is a mapping is served exactly if what is wrong with its records can be told and
the patterns that it serves are within the limits; otherwise the reload breaks off and changes
nothing. Every record that does not fit is reported; and no record matters to a profile whose way up
does not pass through it. -/
theorem reload_serves_iff (hcontent : store.document st.disk = some content)
    (hread : Yaml.read content = .ok (.map label entries)) :
    ∃ r, store.rootOf content = .ok r ∧
      ((∃ result snapshot, ReloadsTo store st r result snapshot) ↔ r.contents.Bearable) ∧
      (¬ r.contents.Bearable → ∃ e, resultOf (reload store) st = (.error e, st)) ∧
      (∀ result snapshot, ReloadsTo store st r result snapshot →
        ∀ name d, (name, d) ∈ r.contents → ¬ Profile.IsRecord d →
          ∃ told, (Failure.record name told).message ∈ result.errors) ∧
      ∀ result snapshot, ReloadsTo store st r result snapshot →
        ∀ before k d d' after, r.contents = before ++ (k, d) :: after →
          ∀ s : Snapshot, s.Serves (before ++ (k, d') :: after) →
            ∀ name, (∀ ns, Ascent r.contents.profiles name ns → k ∉ ns) →
              s.profiles.get? name = snapshot.profiles.get? name ∧
                s.matchersOf name = snapshot.matchersOf name := by
  obtain ⟨r, hroot⟩ := exists_rootOf store hread
  have hbearable : ∀ {result snapshot}, ReloadsTo store st r result snapshot →
      r.contents.Bearable := by
    intro result snapshot hreloads
    by_contra h
    obtain ⟨e, he⟩ := exists_reload_eq_error hcontent hroot h
    rw [hreloads.ends] at he
    cases he
  refine ⟨r, hroot, ⟨fun ⟨_, _, hreloads⟩ => hbearable hreloads, exists_reloadsTo hcontent hroot⟩,
    exists_reload_eq_error hcontent hroot, ?_, ?_⟩
  · intro result snapshot hreloads name d hmem hd
    have hcan : Profile.CanBeTold d := (hbearable hreloads).records (name, d) hmem
    obtain ⟨told, htold⟩ := (Profile.exists_misfits_iff name hd).mpr hcan
    exact ⟨told, (hreloads.errors _).mpr (.record hmem htold)⟩
  · intro result snapshot hreloads before k d d' after hsplit s hs name hname
    rw [hsplit] at hname
    exact (hsplit ▸ hreloads.serves).congr hs hname

/-! ## Two documents -/

/-- A profile that extends another one, one with a malformed pattern, a record that does not fit, and
a profile without its parent. -/
def fourRecords : Bytes := bytesOf
  "profiles:
  base:
    suppressions:
    - pattern: R1
    - pattern: '('
  strict:
    extends: base
    xsd-overrides:
      INVOICE:
      - element: cac:Note
        minOccurs: 1
  wrong:
    suppressions: 5
    extends: [strict]
  2024:
    extends: nowhere
"

/-- The profiles of the records that fit. -/
def threeProfiles : Table Profile :=
  [("base", { name := "base", rules := [{ pattern := "R1" }, { pattern := "(" }] }),
    ("strict",
      { name := "strict", parent := some "base",
        overrides := [("INVOICE", [⟨"cac:Note", some "1", none⟩])] }),
    ("2024", { name := "2024", parent := some "nowhere" })]

/-- The profile `strict` with what it inherits. -/
def strictServed : Profile :=
  { name := "strict", parent := some "base", rules := [{ pattern := "R1" }, { pattern := "(" }],
    overrides := [("INVOICE", [⟨"cac:Note", some "1", none⟩])] }

/-- Records that do not fit, a profile without its parent and a malformed pattern are reported, and
the other profiles are served. -/
theorem reload_serves_of_four :
    (∃ label entries, Yaml.read fourRecords = .ok (.map label entries)) ∧
      ∃ result snapshot, resultOf (reload kept) (unread fourRecords) =
          (.ok result, { unread fourRecords with snapshot }) ∧
        snapshot.profiles.get? "strict" = some strictServed ∧
        snapshot.profiles.get? "2024" = none ∧
        "2024" ++ ": " ++ (InheritanceFault.unknownParent "2024" "nowhere").message ∈ result.errors := by
  obtain ⟨r, hroot, hr⟩ := exists_eq_ok_of_any
    (by decide +kernel : (kept.rootOf fourRecords).toOption.any fun r =>
      r.label ≠ 0 ∧ r.contents.Bearable ∧ r.contents.profiles = threeProfiles)
  obtain ⟨hlabel, hbearable, hprofiles⟩ := of_decide_eq_true hr
  obtain ⟨label, entries, hread⟩ := exists_map_of_rootOf hroot hlabel
  obtain ⟨r', hroot', hreloads, -⟩ := reload_serves_iff (document_unread fourRecords) hread
  obtain rfl : r = r' := Except.ok.inj (hroot.symm.trans hroot')
  obtain ⟨result, snapshot, hreloads⟩ := hreloads.mpr hbearable
  have hproper : AllProper threeProfiles := hprofiles ▸ r.contents.allProper_profiles
  have hlost : Settles threeProfiles "2024" (.error (.unknownParent "2024" "nowhere")) :=
    (Resolver.outcome_eq_iff hproper).mp rfl
  refine ⟨⟨label, entries, hread⟩, result, snapshot, hreloads.ends, ?_, ?_, ?_⟩
  · rw [hreloads.serves.profiles, hprofiles]
    exact (Resolver.outcome_eq_iff hproper).mp rfl
  · refine Option.eq_none_iff_forall_ne_some.mpr fun p hp => ?_
    rw [hreloads.serves.profiles, hprofiles] at hp
    cases hp.unique hlost
  · rw [hreloads.errors]
    exact .inheritance (hprofiles ▸ by decide) (hprofiles ▸ hlost)

/-- A record with two sorts of keys in one section, and a profile that fits. -/
def mixedKeys : Bytes := bytesOf
  "profiles:
  mixed:
    xsd-overrides:
      1: x
      INVOICE: y
  sound:
    description: fits
"

/-- What is wrong under keys of two sorts cannot be told, and the reload breaks off. -/
theorem reload_breaks_off_of_mixed_keys :
    (∃ label entries, Yaml.read mixedKeys = .ok (.map label entries)) ∧
      ¬ ∃ result st, resultOf (reload kept) (unread mixedKeys) = (.ok result, st) := by
  obtain ⟨r, hroot, hr⟩ := exists_eq_ok_of_any
    (by decide +kernel : (kept.rootOf mixedKeys).toOption.any fun r =>
      r.label ≠ 0 ∧ ¬ r.contents.Bearable)
  obtain ⟨hlabel, hunbearable⟩ := of_decide_eq_true hr
  refine ⟨exists_map_of_rootOf hroot hlabel, ?_⟩
  rintro ⟨result, st, hends⟩
  obtain ⟨e, he⟩ := exists_reload_eq_error (document_unread mixedKeys) hroot hunbearable
  rw [he] at hends
  cases hends

end Registry

end Conformity

import Conformity.Profile.Registry
import Conformity.Proofs.Profile.Record
import Conformity.Proofs.Profile.Resolver
import Conformity.Proofs.Work

/-!
# The contents of a profiles document

A document is a list of records with names. The profiles of those that fit make a table, and for the
others there is something to tell (`ProfileStore.readRoot_eq_ok`). A snapshot serves the profiles of
the table whose way up ends well, each with the matchers of its rules (`Snapshot.ofDocument_eq_ok`).
-/

namespace Conformity

namespace Profile

/-! ## The rules of a profile -/

/-- The matchers of the rules that have one. -/
def matchers (p : Profile) : List Matcher :=
  p.rules.filterMap fun r =>
    if Text.isBlankText r.pattern then none else (Matcher.ofRule r).toOption

/-- The rules whose pattern is malformed. -/
def patternFaults (p : Profile) : List PatternFault :=
  p.rules.filterMap fun r =>
    if Text.isBlankText r.pattern then none
    else
      match Matcher.ofRule r with
      | .error (.malformed f) => some f
      | _ => none

/-- No pattern of a rule is beyond a limit. -/
def WithinLimits (p : Profile) : Prop :=
  ∀ r ∈ p.rules, ¬ Text.isBlankText r.pattern → ∀ l, Matcher.ofRule r ≠ .error (.limit l)

end Profile

open Profile in
theorem ofRules_eq_ok {p : Profile} (h : p.WithinLimits) :
    Matcher.ofRules p.rules = .ok (p.matchers, p.patternFaults) := by
  unfold WithinLimits at h
  unfold matchers patternFaults
  revert h
  induction p.rules with
  | nil => exact fun _ => rfl
  | cons r rs ih =>
      intro h
      rw [List.forall_mem_cons] at h
      rw [Matcher.ofRules, List.filterMap_cons, List.filterMap_cons]
      by_cases hblank : Text.isBlankText r.pattern
      · rw [if_pos hblank, if_pos hblank, if_pos hblank, ih h.2]
      · rw [if_neg hblank, if_neg hblank, if_neg hblank, ih h.2]
        cases hr : Matcher.ofRule r with
        | ok m => rfl
        | error e =>
            cases e with
            | malformed f => rfl
            | limit l => exact absurd hr (h.1 hblank l)

open Profile in
theorem exists_ofRules_eq_error {p : Profile} (h : ¬ p.WithinLimits) :
    ∃ l, Matcher.ofRules p.rules = .error l := by
  unfold WithinLimits at h
  revert h
  induction p.rules with
  | nil => simp
  | cons r rs ih =>
      intro h
      rw [List.forall_mem_cons] at h
      rw [Matcher.ofRules]
      by_cases hblank : Text.isBlankText r.pattern
      · rw [if_pos hblank]
        exact ih fun hrs => h ⟨fun hne => absurd hblank hne, hrs⟩
      · rw [if_neg hblank]
        cases hr : Matcher.ofRule r with
        | ok m =>
            obtain ⟨l, hl⟩ := ih fun hrs => h ⟨fun _ l => by simp [hr], hrs⟩
            exact ⟨l, by rw [hl]; rfl⟩
        | error e =>
            cases e with
            | limit l => exact ⟨l, rfl⟩
            | malformed f =>
                obtain ⟨l, hl⟩ := ih fun hrs => h ⟨fun _ l => by simp [hr], hrs⟩
                exact ⟨l, by rw [hl]; rfl⟩

namespace Snapshot

theorem readyMatchers_eq_ok {ps : Table Profile} (h : ∀ e ∈ ps, e.2.WithinLimits) :
    readyMatchers ps = .ok (ps.map fun e => (e.1, e.2.matchers),
      ps.flatMap fun e => e.2.patternFaults.map fun f => e.1 ++ ": " ++ f.message) := by
  induction ps with
  | nil => rfl
  | cons e ps ih =>
      rw [List.forall_mem_cons] at h
      rw [readyMatchers, ofRules_eq_ok h.1, ih h.2]
      rfl

theorem exists_readyMatchers_eq_error {ps : Table Profile} (h : ¬ ∀ e ∈ ps, e.2.WithinLimits) :
    ∃ l, readyMatchers ps = .error l := by
  induction ps with
  | nil => simp at h
  | cons e ps ih =>
      rw [List.forall_mem_cons] at h
      rw [readyMatchers]
      by_cases he : e.2.WithinLimits
      · obtain ⟨l, hl⟩ := ih fun hps => h ⟨he, hps⟩
        exact ⟨l, by rw [ofRules_eq_ok he, hl]; rfl⟩
      · obtain ⟨l, hl⟩ := exists_ofRules_eq_error he
        exact ⟨l, by rw [hl]; rfl⟩

end Snapshot

/-! ## The records of a document -/

/-- Records with the texts of their names, in the order of the document. -/
abbrev Contents := List (String × Data)

namespace Contents

/-- The profiles of the records that fit; of several with one name the last one counts. -/
def profiles (cs : Contents) : Table Profile :=
  Table.ofEntries (cs.filterMap fun e => (Profile.ofRecord e.1 e.2).toOption.map (e.1, ·))

/-- What is told of the records that do not fit. -/
def faults (cs : Contents) : List String :=
  cs.filterMap fun e =>
    match Profile.ofRecord e.1 e.2 with
    | .error (.misfits told) => some (Failure.record e.1 told).message
    | _ => none

theorem mem_faults {cs : Contents} {text : String} : text ∈ cs.faults ↔
    ∃ name d told, (name, d) ∈ cs ∧ Profile.ofRecord name d = .error (.misfits told) ∧
      (Failure.record name told).message = text := by
  unfold faults
  rw [List.mem_filterMap]
  constructor
  · rintro ⟨⟨name, d⟩, hmem, heq⟩
    dsimp only at heq
    split at heq
    · next told htold => exact ⟨name, d, told, hmem, htold, Option.some.inj heq⟩
    · cases heq
  · rintro ⟨name, d, told, hmem, htold, rfl⟩
    exact ⟨(name, d), hmem, by dsimp only; rw [htold]⟩

theorem nodup_names_profiles (cs : Contents) : cs.profiles.names.Nodup :=
  Table.nodup_names_foldl_alter _ _ _ List.nodup_nil

theorem exists_record_of_get? {cs : Contents} {name : String} {p : Profile}
    (h : cs.profiles.get? name = some p) : ∃ d, (name, d) ∈ cs ∧ Profile.ofRecord name d = .ok p := by
  unfold profiles at h
  rw [Table.get?_ofEntries] at h
  have hmem := List.mem_reverse.mp (Table.mem_of_get?_eq_some h)
  obtain ⟨⟨n, d⟩, he, heq⟩ := List.mem_filterMap.mp hmem
  cases hd : Profile.ofRecord n d with
  | error e => simp [hd, Except.toOption] at heq
  | ok q =>
      simp only [hd, Except.toOption, Option.map_some, Option.some.injEq, Prod.mk.injEq] at heq
      obtain ⟨rfl, rfl⟩ := heq
      exact ⟨d, he, hd⟩

theorem allProper_profiles (cs : Contents) : AllProper cs.profiles := by
  intro e he
  have hget : cs.profiles.get? e.1 = some e.2 := Table.get?_of_mem cs.nodup_names_profiles he
  obtain ⟨d, -, hd⟩ := exists_record_of_get? hget
  exact Profile.isProper_of_ofRecord hd

end Contents

namespace ProfileStore

/-- The records of a root, values that lie within themselves being followed for a while. -/
def contentsOf (root : Data) (records : Data.Fields) : Contents :=
  records.map fun e => (e.1.plain, Data.unroll root unrolling e.2)

/-- The records of a document. -/
def Root.contents (r : Root) : Contents := contentsOf r.toData r.records

variable {root : Data} {records : Data.Fields} {found : ProfilesDocument}

theorem readRecords_eq_ok (h : ∀ e ∈ contentsOf root records, Profile.CanBeTold e.2) :
    readRecords root found records = .ok { found with
      profiles := ((contentsOf root records).filterMap fun e =>
        (Profile.ofRecord e.1 e.2).toOption.map (e.1, ·)).foldl
          (fun t e => t.set e.1 e.2) found.profiles
      faults := found.faults ++ (contentsOf root records).faults } := by
  induction records generalizing found with
  | nil => simp [readRecords, contentsOf, Contents.faults]
  | cons e es ih =>
      obtain ⟨k, d⟩ := e
      unfold contentsOf at h ih ⊢
      rw [List.map_cons, List.forall_mem_cons] at h
      rw [readRecords, List.map_cons, List.filterMap_cons, Contents.faults, List.filterMap_cons]
      dsimp only at h ⊢
      cases hd : Profile.ofRecord k.plain (Data.unroll root unrolling d) with
      | ok p =>
          dsimp only
          rw [ih h.2]
          rfl
      | error e =>
          cases e with
          | misfits told =>
              dsimp only
              rw [ih h.2, List.append_assoc]
              rfl
          | route e => exact absurd h.1 ((Profile.exists_route_iff k.plain).mp ⟨e, hd⟩)

/-- A record that cannot be told breaks the reading off. -/
theorem exists_readRecords_eq_error (found : ProfilesDocument)
    (h : ¬ ∀ e ∈ contentsOf root records, Profile.CanBeTold e.2) :
    ∃ e, readRecords root found records = .error (.route e) := by
  induction records generalizing found with
  | nil => simp [contentsOf] at h
  | cons e es ih =>
      obtain ⟨k, d⟩ := e
      unfold contentsOf at h ih
      rw [List.map_cons, List.forall_mem_cons] at h
      rw [readRecords]
      dsimp only at h ⊢
      -- a record that is read or refused can be told, so the one that cannot comes later
      split
      · next p hp =>
        refine ih _ fun hes => h ⟨?_, hes⟩
        exact Profile.canBeTold_of_isRecord (Profile.ofRecord_eq_ok_iff.mp hp).1
      · next told htold =>
        refine ih _ fun hes => h ⟨?_, hes⟩
        by_contra hd
        obtain ⟨e, he⟩ := (Profile.exists_route_iff k.plain).mpr hd
        rw [htold] at he
        cases he
      · next e _ => exact ⟨e, rfl⟩

/-- The assertions for all profiles that a document holds. -/
def Root.globals (r : Root) : Assertions :=
  Assertions.ofSection (Data.unroll r.toData unrolling ((Data.field assertionsKey r.entries).getD .null))

variable {r : Root}

theorem readRoot_eq_ok (h : ∀ e ∈ r.contents, Profile.CanBeTold e.2) :
    readRoot r = .ok ⟨r.globals, r.contents.profiles, r.contents.faults⟩ := by
  unfold readRoot
  rw [readRecords_eq_ok h]
  rfl

theorem exists_readRoot_eq_error (h : ¬ ∀ e ∈ r.contents, Profile.CanBeTold e.2) :
    ∃ e, readRoot r = .error (.route e) := by
  unfold readRoot
  obtain ⟨e, he⟩ := exists_readRecords_eq_error {} h
  exact ⟨e, by rw [he]; rfl⟩

end ProfileStore

/-! ## What is served -/

/-- All profiles whose way up ends well have patterns within the limits. -/
def Contents.WithinLimits (cs : Contents) : Prop :=
  ∀ name p, Settles cs.profiles name (.ok p) → p.WithinLimits

/-- A snapshot serves the profiles of the records that fit and whose way up ends well, with what they
inherit and with their matchers, and nothing else. -/
structure Snapshot.Serves (s : Snapshot) (cs : Contents) : Prop where
  profiles : ∀ name p, s.profiles.get? name = some p ↔ Settles cs.profiles name (.ok p)
  matchers : ∀ name, s.matchersOf name = (s.profiles.get? name).map Profile.matchers

/-- Something is wrong with a document: a record does not fit, the way up from a profile does not end
well, or a profile that is served has a rule with a malformed pattern. -/
inductive Contents.IsFault (cs : Contents) : String → Prop
  | record {name : String} {d : Data} {told : List String} : (name, d) ∈ cs →
      Profile.ofRecord name d = .error (.misfits told) →
        IsFault cs (Failure.record name told).message
  | inheritance {name : String} {e : InheritanceFault} : name ∈ cs.profiles.names →
      Settles cs.profiles name (.error e) → IsFault cs (name ++ ": " ++ e.message)
  | pattern {name : String} {p : Profile} {f : PatternFault} : Settles cs.profiles name (.ok p) →
      f ∈ p.patternFaults → IsFault cs (name ++ ": " ++ f.message)

namespace Snapshot

variable {cs : Contents} {globals : Assertions} {name : String} {p : Profile}

theorem mem_names_of_settles {declared : Table Profile} (h : Settles declared name (.ok p)) :
    name ∈ declared.names := by
  cases h with
  | @resolved n ns root rest p hascent _ hget _ _ =>
      have hname : declared.get? name ∈ (n :: ns).map declared.get? :=
        List.mem_map_of_mem (List.mem_of_getLast? hascent.getLast?)
      rw [hget] at hname
      obtain ⟨own, -, hown⟩ := List.mem_map.mp hname
      exact Table.has_iff_mem_names.mp (by simp [Table.has, ← hown])

theorem mem_resolveAll {declared : Table Profile} (hproper : AllProper declared) :
    (name, p) ∈ (Resolver.resolveAll declared).1 ↔ Settles declared name (.ok p) := by
  rw [Resolver.resolveAll_eq hproper, Table.mem_filterMap, Resolver.toOption_outcome_eq_some hproper]
  exact and_iff_right_of_imp mem_names_of_settles

theorem get?_resolveAll {declared : Table Profile} (hproper : AllProper declared) :
    (Resolver.resolveAll declared).1.get? name = some p ↔ Settles declared name (.ok p) := by
  rw [Resolver.resolveAll_eq hproper, Table.get?_filterMap, ← Resolver.toOption_outcome_eq_some hproper]
  split
  · rfl
  · next hname =>
    refine iff_of_false (by simp) fun h => ?_
    exact hname (mem_names_of_settles ((Resolver.toOption_outcome_eq_some hproper).mp h))

theorem withinLimits_iff : cs.WithinLimits ↔
    ∀ e ∈ (Resolver.resolveAll cs.profiles).1, e.2.WithinLimits := by
  refine ⟨fun h e he => h e.1 e.2 ((mem_resolveAll cs.allProper_profiles).mp he), fun h name p hp => ?_⟩
  exact h (name, p) ((mem_resolveAll cs.allProper_profiles).mpr hp)

/-- Within the limits of patterns, a snapshot of the records is made. -/
theorem ofDocument_eq_ok (globals : Assertions) (h : cs.WithinLimits) :
    ∃ s faults, ofDocument ⟨globals, cs.profiles, cs.faults⟩ = .ok (s, faults) ∧ s.globals = globals ∧
      s.Serves cs ∧ ∀ text, text ∈ faults ↔ cs.IsFault text := by
  have hready := readyMatchers_eq_ok (withinLimits_iff.mp h)
  unfold ofDocument
  dsimp only
  rw [hready]
  refine ⟨_, _, rfl, rfl, ⟨fun name p => get?_resolveAll cs.allProper_profiles, fun name => ?_⟩,
    fun text => ?_⟩
  · exact Table.get?_map _ _ name
  · rw [List.mem_eraseDups, List.mem_append, List.mem_append, Contents.mem_faults]
    simp only [List.mem_map, List.mem_flatMap, Prod.exists, mem_resolveAll cs.allProper_profiles]
    rw [Resolver.resolveAll_eq cs.allProper_profiles]
    simp only [Table.mem_filterMap, Resolver.fault?_eq_some cs.allProper_profiles]
    constructor
    · rintro ((⟨name, d, told, hmem, hd, rfl⟩ | ⟨name, e, ⟨hname, he⟩, rfl⟩) | ⟨name, p, hp, f, hf, rfl⟩)
      · exact .record hmem hd
      · exact .inheritance hname he
      · exact .pattern hp hf
    · rintro (⟨hmem, hd⟩ | ⟨hname, he⟩ | ⟨hp, hf⟩)
      · exact .inl (.inl ⟨_, _, _, hmem, hd, rfl⟩)
      · exact .inl (.inr ⟨_, _, ⟨hname, he⟩, rfl⟩)
      · exact .inr ⟨_, _, hp, _, hf, rfl⟩

/-- A pattern beyond a limit breaks the snapshot off. -/
theorem exists_ofDocument_eq_error (globals : Assertions) (h : ¬ cs.WithinLimits) :
    ∃ l, ofDocument ⟨globals, cs.profiles, cs.faults⟩ = .error l := by
  obtain ⟨l, hl⟩ := exists_readyMatchers_eq_error (mt withinLimits_iff.mpr h)
  unfold ofDocument
  dsimp only
  rw [hl]
  exact ⟨l, rfl⟩

end Snapshot

end Conformity

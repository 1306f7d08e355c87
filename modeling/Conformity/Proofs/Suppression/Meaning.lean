import Conformity.Proofs.Profile.Contents
import Conformity.Proofs.Regex.Literal
import Conformity.Proofs.Text.Trim
import Conformity.Suppression.Applied

/-!
# What is suppressed

A rule says of a finding that it is suppressed (`SuppressionRule.Suppresses`), and so does a directive
(`AdHoc.Suppresses`). The rules of a profile, with the inherited ones, come to the snapshot as
matchers, and the directives of a request become matchers, too. What these accept is what the rules
and directives mean (`Suppression.apply_of_document`), for an exact pattern matches nothing but its
own text, and a malformed pattern has no matcher.

An error text is a finding of which nothing but the message is known. A rule that looks at rule ids or
tests matches no such finding, whatever its pattern, so that texts can be held against message patterns
only. What is left of the texts are the messages of the findings that stay active
(`Suppression.applyTexts_eq_messages`).
-/

namespace Conformity

open Text (trim trimChars isBlankText)

/-! ## Patterns -/

/-- A pattern matches a text as a whole: as this text, or as a regular expression. -/
def MatchMode.Matches (mode : MatchMode) (pattern s : String) : Prop :=
  if mode.isLiteral then s = pattern
  else ∃ e, Regex.parse pattern.toList = .ok e ∧ e.accepts s

theorem MatchMode.matches_iff {mode : MatchMode} {pattern s : String} :
    (∃ e, readPattern mode pattern = .ok e ∧ e.accepts s) ↔ mode.Matches pattern s := by
  unfold readPattern MatchMode.Matches
  by_cases hliteral : mode.isLiteral
  · simp only [hliteral, ↓reduceIte, Regex.parse_literalPattern, Except.ok.injEq, exists_eq_left',
      Regex.Expr.accepts, Regex.matchesAll_literal, String.toList_inj]
  · simp only [hliteral, Bool.false_eq_true, ↓reduceIte]
    cases Regex.parse pattern.toList <;> simp

/-- The pattern of an exact text is read, and matches the text and nothing else. -/
theorem exists_readPattern_of_isLiteral {mode : MatchMode} (hmode : mode.isLiteral)
    (pattern : String) :
    ∃ e, readPattern mode pattern = .ok e ∧ ∀ s, e.accepts s ↔ s = pattern := by
  refine ⟨Regex.literal pattern.toList, ?_, ?_⟩
  · rw [readPattern, if_pos hmode, Regex.parse_literalPattern]
  · intro s
    rw [Regex.Expr.accepts, Regex.matchesAll_literal, String.toList_inj]

/-! ## Rules -/

/-- A rule suppresses a finding while some types are in play. -/
structure SuppressionRule.Suppresses (active : List String) (f : Finding) (r : SuppressionRule) :
    Prop where
  notBlank : ¬ isBlankText r.pattern
  inScope : r.scope = [] ∨ ∃ t ∈ r.scope, t ∈ active
  hits : ∃ s, r.mode.target f = some s ∧ r.mode.Matches r.pattern s

namespace Matcher

variable {m : Matcher} {active : List String} {f : Finding}

theorem inScope_iff : m.inScope active ↔ m.scope = [] ∨ ∃ t ∈ m.scope, t ∈ active := by
  simp [inScope]

theorem accepts_iff : m.accepts f ↔ ∃ s, m.mode.target f = some s ∧ m.pattern.accepts s := by
  simp [accepts, Option.any_eq_true]

end Matcher

theorem mem_matchers {p : Profile} {m : Matcher} :
    m ∈ p.matchers ↔ ∃ r ∈ p.rules, ¬ isBlankText r.pattern ∧
      ∃ e, readPattern r.mode r.pattern = .ok e ∧ m = ⟨r.mode, e, r.scope, r.description⟩ := by
  unfold Profile.matchers Matcher.ofRule
  rw [List.mem_filterMap]
  refine exists_congr fun r => and_congr_right fun _ => ?_
  by_cases hblank : isBlankText r.pattern
  · simp [hblank]
  · cases readPattern r.mode r.pattern <;> simp [hblank, Except.map, Except.toOption, eq_comm]

/-- The matchers of a profile that are in scope accept what its rules suppress. -/
theorem exists_matchers_iff {p : Profile} {active : List String} {f : Finding} :
    (∃ m ∈ p.matchers, m.inScope active ∧ m.accepts f) ↔ ∃ r ∈ p.rules, r.Suppresses active f := by
  constructor
  · rintro ⟨m, hm, hscope, haccepts⟩
    obtain ⟨r, hr, hblank, e, he, rfl⟩ := mem_matchers.mp hm
    obtain ⟨s, hs, haccepts⟩ := Matcher.accepts_iff.mp haccepts
    exact ⟨r, hr, hblank, Matcher.inScope_iff.mp hscope, s, hs,
      MatchMode.matches_iff.mp ⟨e, he, haccepts⟩⟩
  · rintro ⟨r, hr, hblank, hscope, s, hs, hmatches⟩
    obtain ⟨e, he, haccepts⟩ := MatchMode.matches_iff.mpr hmatches
    exact ⟨_, mem_matchers.mpr ⟨r, hr, hblank, e, he, rfl⟩, Matcher.inScope_iff.mpr hscope,
      Matcher.accepts_iff.mpr ⟨s, hs, haccepts⟩⟩

/-! ## Directives -/

namespace AdHoc

/-- A directive suppresses a finding: by its test, by its message or by its rule. -/
inductive Suppresses (directive : String) (f : Finding) : Prop
  | test {rest : String} : trim directive = "test:" ++ rest → trim rest ≠ "" →
      f.test = some (trim rest) → Suppresses directive f
  | text {rest : String} {e : Regex.Expr} : trim directive = "text:" ++ rest → trim rest ≠ "" →
      Regex.parse (trim rest).toList = .ok e → e.accepts f.message → Suppresses directive f
  | rule : (∀ rest, trim directive ≠ "test:" ++ rest) → (∀ rest, trim directive ≠ "text:" ++ rest) →
      trim directive ≠ "" → f.ruleId = some (trim directive) → Suppresses directive f

/-- The pattern of a directive hits a finding. -/
def Hits (f : Finding) (p : MatchMode × List Char) : Prop :=
  p.2 ≠ [] ∧ ∃ s, p.1.target f = some s ∧ p.1.Matches (String.ofList p.2) s

/-- The matcher of a directive accepts what its pattern hits. -/
theorem exists_matcher?_iff {directive : String} {f : Finding} :
    (∃ m, matcher? directive = .ok (some m) ∧ m.accepts f) ↔
      Hits f (split (trimChars directive.toList)) := by
  unfold matcher? Hits
  rcases split (trimChars directive.toList) with ⟨mode, pattern⟩
  dsimp only
  cases hempty : pattern.isEmpty with
  | true => simp [List.isEmpty_iff.mp hempty]
  | false =>
      have hne : pattern ≠ [] := by
        rintro rfl
        cases hempty
      simp only [Bool.false_eq_true, ↓reduceIte, ne_eq, hne, not_false_eq_true, true_and,
        ← MatchMode.matches_iff, Matcher.accepts_iff]
      rcases readPattern mode (String.ofList pattern) with (_ | _) | e
      · simp
      · simp
      · simp

theorem trim_eq_append_iff {directive b rest : String} : trim directive = b ++ rest ↔
    Text.after? b.toList (trimChars directive.toList) = some rest.toList := by
  rw [Text.after?_eq_some_iff, ← String.toList_inj, String.toList_append, trim, String.toList_ofList]

theorem trim_ne_empty_iff {s : String} : trim s ≠ "" ↔ trimChars s.toList ≠ [] := by
  rw [trim, ne_eq, ← String.toList_inj, String.toList_ofList]
  rfl

theorem after?_test_of_text {rest : List Char} :
    Text.after? "test:".toList ("text:".toList ++ rest) = none := rfl

theorem split_of_test {cs rest : List Char} (h : Text.after? "test:".toList cs = some rest) :
    split cs = (.testExact, trimChars rest) := by
  unfold split
  rw [h]

theorem split_of_text {cs rest : List Char} (h : Text.after? "text:".toList cs = some rest) :
    split cs = (.textPattern, trimChars rest) := by
  obtain rfl := Text.after?_eq_some_iff.mp h
  unfold split
  rw [after?_test_of_text, h]

theorem split_of_rule {cs : List Char} (htest : Text.after? "test:".toList cs = none)
    (htext : Text.after? "text:".toList cs = none) : split cs = (.idExact, cs) := by
  unfold split
  rw [htest, htext]

theorem trim_ofList (cs : List Char) : trim (String.ofList cs) = String.ofList (trimChars cs) := by
  rw [trim, String.toList_ofList]

/-- A directive that begins in a certain way says of the rest what it is to be compared with. -/
theorem exists_rest_of_after? {directive : String} {b : String} {rest : List Char}
    (h : Text.after? b.toList (trimChars directive.toList) = some rest) :
    trim directive = b ++ String.ofList rest :=
  trim_eq_append_iff.mpr (by rw [h, String.toList_ofList])

theorem after?_eq_none_iff {directive b : String} :
    Text.after? b.toList (trimChars directive.toList) = none ↔
      ∀ rest, trim directive ≠ b ++ rest := by
  constructor
  · intro hnone rest heq
    rw [trim_eq_append_iff, hnone] at heq
    cases heq
  · intro h
    cases hrest : Text.after? b.toList (trimChars directive.toList) with
    | none => rfl
    | some rest => exact absurd (exists_rest_of_after? hrest) (h _)

/-- What the pattern of a directive hits is what the directive suppresses. -/
theorem hits_split_iff {directive : String} {f : Finding} :
    Hits f (split (trimChars directive.toList)) ↔ Suppresses directive f := by
  constructor
  · -- the prefixes are tried in the order in which `split` tries them
    rintro ⟨hne, s, hs, hmatches⟩
    cases htest : Text.after? "test:".toList (trimChars directive.toList) with
    | some rest =>
        rw [split_of_test htest] at hne hs hmatches
        obtain rfl : s = String.ofList (trimChars rest) := hmatches
        rw [← trim_ofList] at hs
        have hrest : trim (String.ofList rest) ≠ "" :=
          trim_ne_empty_iff.mpr (by rwa [String.toList_ofList])
        exact .test (exists_rest_of_after? htest) hrest hs
    | none =>
        cases htext : Text.after? "text:".toList (trimChars directive.toList) with
        | some rest =>
            rw [split_of_text htext] at hne hs hmatches
            obtain ⟨e, he, haccepts⟩ := hmatches
            cases hs
            rw [← trim_ofList] at he
            have hrest : trim (String.ofList rest) ≠ "" :=
              trim_ne_empty_iff.mpr (by rwa [String.toList_ofList])
            exact .text (exists_rest_of_after? htext) hrest he haccepts
        | none =>
            rw [split_of_rule htest htext] at hne hs hmatches
            obtain rfl : s = trim directive := hmatches
            exact .rule (after?_eq_none_iff.mp htest) (after?_eq_none_iff.mp htext)
              (trim_ne_empty_iff.mpr hne) hs
  · rintro (⟨hdirective, hne, htest⟩ | ⟨hdirective, hne, he, haccepts⟩ | ⟨htest, htext, hne, hid⟩)
    · rw [split_of_test (trim_eq_append_iff.mp hdirective)]
      exact ⟨trim_ne_empty_iff.mp hne, _, htest, rfl⟩
    · rw [split_of_text (trim_eq_append_iff.mp hdirective)]
      exact ⟨trim_ne_empty_iff.mp hne, _, rfl, _, he, haccepts⟩
    · rw [split_of_rule (after?_eq_none_iff.mpr htest) (after?_eq_none_iff.mpr htext)]
      exact ⟨trim_ne_empty_iff.mp hne, _, hid, rfl⟩

/-- The matcher that an entry has by itself. -/
def heeded? (entry : Option String) : Option Matcher :=
  entry.bind fun directive => (matcher? directive).toOption.join

theorem heeded?_eq_some_iff {entry : Option String} {m : Matcher} :
    heeded? entry = some m ↔ ∃ d, entry = some d ∧ matcher? d = .ok (some m) := by
  cases entry with
  | none => simp [heeded?]
  | some d =>
      rw [heeded?, Option.bind_some]
      cases hd : matcher? d <;> simp [Except.toOption, hd]

/-- Directives whose patterns are within the limits have matchers, each one its own. -/
theorem matchers_eq_filterMap {ds : List (Option String)}
    (h : ∀ d, some d ∈ ds → ∀ l, matcher? d ≠ .error l) :
    matchers ds = .ok (ds.filterMap heeded?) := by
  induction ds with
  | nil => rfl
  | cons d ds ih =>
      have hrest := ih fun d hd => h d (List.mem_cons_of_mem _ hd)
      cases d with
      | none => exact hrest
      | some d =>
          cases hd : matcher? d with
          | error l => exact absurd hd (h d List.mem_cons_self l)
          | ok m? =>
              have hheeded : heeded? (some d) = m? := by
                rw [heeded?, Option.bind_some, hd]
                rfl
              rw [matchers, hd, hrest]
              cases m? with
              | none =>
                  rw [List.filterMap_cons_none hheeded]
                  rfl
              | some m =>
                  rw [List.filterMap_cons_some hheeded]
                  rfl

/-- So there are matchers for the directives that are well formed, and no others. -/
theorem matchers_eq_ok {ds : List (Option String)}
    (h : ∀ d, some d ∈ ds → ∀ l, matcher? d ≠ .error l) :
    ∃ ms, matchers ds = .ok ms ∧
      ∀ m, m ∈ ms ↔ ∃ d, some d ∈ ds ∧ matcher? d = .ok (some m) := by
  refine ⟨ds.filterMap heeded?, matchers_eq_filterMap h, ?_⟩
  intro m
  rw [List.mem_filterMap]
  constructor
  · rintro ⟨entry, hentry, hm⟩
    obtain ⟨d, rfl, hd⟩ := heeded?_eq_some_iff.mp hm
    exact ⟨d, hentry, hd⟩
  · rintro ⟨d, hd, hm⟩
    exact ⟨some d, hd, heeded?_eq_some_iff.mpr ⟨d, rfl, hm⟩⟩

end AdHoc

/-! ## Requests -/

namespace Suppression

variable {r : Request} {d : ProfilesDocument} {f : Finding}

/-- The profile that a request is for, with what it inherits. A blank name is that of no profile. -/
def Request.Resolves (declared : Table Profile) (r : Request) (p : Profile) : Prop :=
  ∃ name, r.profileName = some name ∧ ¬ isBlankText name ∧ Settles declared name (.ok p)

/-- A finding is suppressed for a request by a rule of its profile, or by one of its directives. -/
inductive IsSuppressed (declared : Table Profile) (r : Request) (f : Finding) : Prop
  | rule {p : Profile} {rule : SuppressionRule} : r.Resolves declared p → rule ∈ p.rules →
      rule.Suppresses r.active f → IsSuppressed declared r f
  | directive {directive : String} : some directive ∈ r.adHoc → AdHoc.Suppresses directive f →
      IsSuppressed declared r f

/-- A snapshot serves the profiles of a table that resolve, with the matchers of their rules. -/
structure ServesAll (declared : Table Profile) (s : Snapshot) : Prop where
  profiles : ∀ name p, s.profiles.get? name = some p ↔ Settles declared name (.ok p)
  matchers : ∀ name, s.matchersOf name = (s.profiles.get? name).map Profile.matchers

theorem exists_ofDocument (hproper : AllProper d.profiles)
    (h : ∀ name p, Settles d.profiles name (.ok p) → p.WithinLimits) :
    ∃ s told, Snapshot.ofDocument d = .ok (s, told) ∧ ServesAll d.profiles s := by
  have hresolved : ∀ e ∈ (Resolver.resolveAll d.profiles).1, e.2.WithinLimits := fun e he =>
    h e.1 e.2 ((Snapshot.mem_resolveAll hproper).mp he)
  unfold Snapshot.ofDocument
  dsimp only
  rw [Snapshot.readyMatchers_eq_ok hresolved]
  exact ⟨_, _, rfl, fun name p => Snapshot.get?_resolveAll hproper, Table.get?_map _ _⟩

/-- The profile of a request is the one that the snapshot serves. -/
theorem ServesAll.profile?_iff {declared : Table Profile} {s : Snapshot} (h : ServesAll declared s)
    {p : Profile} : s.profile? r.profileName = some p ↔ r.Resolves declared p := by
  unfold Snapshot.profile? Request.Resolves
  cases r.profileName with
  | none => simp
  | some name =>
      rw [Option.filter_some]
      cases hblank : isBlankText name <;> simp [hblank, h.profiles]

/-- The matchers of a request's profile that are in scope come before those of the directives. -/
theorem ServesAll.gather_eq_ok {declared : Table Profile} {s : Snapshot} (h : ServesAll declared s)
    {ms : List Matcher} (hdirectives : AdHoc.matchers r.adHoc = .ok ms) :
    ∃ own, gather s.matchersOf r = .ok (own ++ ms) ∧
      ∀ m, m ∈ own ↔ ∃ p, r.Resolves declared p ∧ m ∈ p.matchers ∧ m.inScope r.active := by
  unfold gather
  rw [hdirectives]
  refine ⟨_, rfl, fun m => ?_⟩
  unfold Request.Resolves
  cases r.profileName with
  | none => simp
  | some name =>
      cases hblank : isBlankText name with
      | true => simp [hblank]
      | false =>
          have hown : m ∈ ((s.matchersOf name).getD []).filter (·.inScope r.active) ↔
              ∃ p, Settles declared name (.ok p) ∧ m ∈ p.matchers ∧ m.inScope r.active := by
            rw [h.matchers, List.mem_filter]
            simp only [← h.profiles]
            cases s.profiles.get? name <;> simp
          simpa [hblank] using hown

/-- The rules in force accept what is suppressed. -/
theorem ServesAll.exists_gather {s : Snapshot} (hserves : ServesAll d.profiles s)
    (h : ∀ directive, some directive ∈ r.adHoc → ∀ l, AdHoc.matcher? directive ≠ .error l) :
    ∃ rules, gather s.matchersOf r = .ok rules ∧
      ∀ f, rules.any (·.accepts f) ↔ IsSuppressed d.profiles r f := by
  obtain ⟨ms, hms, hmem⟩ := AdHoc.matchers_eq_ok h
  obtain ⟨own, hgather, hown⟩ := hserves.gather_eq_ok hms
  refine ⟨own ++ ms, hgather, fun f => ?_⟩
  rw [List.any_eq_true]
  constructor
  · rintro ⟨m, hm, haccepts⟩
    rcases List.mem_append.mp hm with hm | hm
    · obtain ⟨p, hp, hmp, hscope⟩ := (hown m).mp hm
      obtain ⟨rule, hrule, hsuppresses⟩ := exists_matchers_iff.mp ⟨m, hmp, hscope, haccepts⟩
      exact .rule hp hrule hsuppresses
    · obtain ⟨directive, hdirective, hmade⟩ := (hmem m).mp hm
      exact .directive hdirective
        (AdHoc.hits_split_iff.mp (AdHoc.exists_matcher?_iff.mp ⟨m, hmade, haccepts⟩))
  · rintro (⟨hp, hrule, hsuppresses⟩ | ⟨hdirective, hsuppresses⟩)
    · obtain ⟨m, hmp, hscope, haccepts⟩ := exists_matchers_iff.mpr ⟨_, hrule, hsuppresses⟩
      exact ⟨m, List.mem_append_left ms ((hown m).mpr ⟨_, hp, hmp, hscope⟩), haccepts⟩
    · obtain ⟨m, hmade, haccepts⟩ :=
        AdHoc.exists_matcher?_iff.mpr (AdHoc.hits_split_iff.mpr hsuppresses)
      exact ⟨m, List.mem_append_right own ((hmem m).mpr ⟨_, hdirective, hmade⟩), haccepts⟩

/-- A document whose patterns are within the limits is served, and a request whose directives are, too,
divides findings, in their order and as often as they are given, into those that are suppressed and
the others. -/
theorem apply_of_document (findings : List Finding) (hproper : AllProper d.profiles)
    (hprofiles : ∀ name p, Settles d.profiles name (.ok p) → p.WithinLimits)
    (hdirectives : ∀ directive, some directive ∈ r.adHoc →
      ∀ l, AdHoc.matcher? directive ≠ .error l) :
    ∃ s told parts, Snapshot.ofDocument d = .ok (s, told) ∧
      (∀ p, s.profile? r.profileName = some p ↔ r.Resolves d.profiles p) ∧
      apply s.matchersOf r findings = .ok parts ∧ parts.profileName = r.profileName ∧
      ∃ hit : Finding → Bool, (∀ f, hit f ↔ IsSuppressed d.profiles r f) ∧
        parts.suppressed = findings.filter hit ∧ parts.active = findings.filter (!hit ·) := by
  obtain ⟨s, told, hdocument, hserves⟩ := exists_ofDocument hproper hprofiles
  obtain ⟨rules, hgather, hrules⟩ := hserves.exists_gather hdirectives
  have hdivided : ∃ parts, apply s.matchersOf r findings = .ok parts ∧
      parts = divide rules r.profileName findings := by
    unfold apply
    cases findings with
    | nil => exact ⟨_, rfl, rfl⟩
    | cons f fs => exact ⟨_, by rw [hgather]; rfl, rfl⟩
  obtain ⟨parts, happly, rfl⟩ := hdivided
  refine ⟨s, told, _, hdocument, fun p => hserves.profile?_iff, happly, rfl,
    fun f => rules.any (·.accepts f), hrules, ?_, ?_⟩
  · simp [divide, List.partition_eq_filter_filter]
  · simp [divide, List.partition_eq_filter_filter, Function.comp_def]

/-! ### A family of profiles -/

/-- The rules of a profile that resolves are rules of profiles in the table. -/
theorem exists_declared_of_mem_rules {declared : Table Profile} {name : String} {p : Profile}
    (h : Settles declared name (.ok p)) {rule : SuppressionRule} (hrule : rule ∈ p.rules) :
    ∃ e ∈ declared, rule ∈ e.2.rules := by
  cases h with
  | @resolved n ns root rest p hascent hnodup hget hroot hheir =>
      rw [hheir.rules] at hrule
      obtain ⟨own, hown, hrule⟩ := List.mem_flatMap.mp hrule
      have hmem : some own ∈ (n :: ns).map declared.get? := by
        rw [hget]
        exact List.mem_map_of_mem hown
      obtain ⟨m, -, hm⟩ := List.mem_map.mp hmem
      exact ⟨(m, own), Table.mem_of_get?_eq_some hm, hrule⟩

/-- If no pattern in a table is beyond a limit, none of a profile that resolves is. -/
theorem withinLimits_of_declared {declared : Table Profile} {name : String} {p : Profile}
    (hdeclared : ∀ e ∈ declared, e.2.WithinLimits) (h : Settles declared name (.ok p)) :
    p.WithinLimits := by
  intro rule hrule
  obtain ⟨e, he, hmem⟩ := exists_declared_of_mem_rules h hrule
  exact hdeclared e he rule hmem

/-- A profile that inherits a rule; of its own rules one is malformed. -/
def family : ProfilesDocument where
  profiles :=
    [("base", { name := "base", rules := [{ mode := .idExact, pattern := "R.1" }] }),
      ("p",
        { name := "p", parent := some "base"
          rules :=
            [{ mode := .textPattern, pattern := "no .*", scope := ["INVOICE"] },
              { mode := .testPattern, pattern := "(" }] })]

/-- A request for the profile, with a directive for a test. -/
def forInvoice : Request := ⟨some "p", [some " test: count(x) ", none, some "text:("], ["INVOICE"]⟩

def exactRule : Finding := { ruleId := some "R.1", message := "wrong" }

def similarRule : Finding := { ruleId := some "RX1", message := "wrong" }

def missing : Finding := { message := "no note" }

def counted : Finding := { test := some "count(x)", message := "wrong" }

/-- A finding may be given more than once. -/
def given : List Finding := [exactRule, similarRule, missing, counted, exactRule]

/-- Is a pattern not beyond a limit? -/
def isWithin {α : Type} : Except PatternRefusal α → Bool
  | .error (.limit _) => false
  | _ => true

theorem ne_limit_of_isWithin {α : Type} {x : Except PatternRefusal α} (h : isWithin x)
    (l : PatternLimit) : x ≠ .error (.limit l) := by
  rintro rfl
  cases h

theorem withinLimits_family {name : String} {p : Profile}
    (h : Settles family.profiles name (.ok p)) : p.WithinLimits := by
  have hall : ∀ e ∈ family.profiles, ∀ rule ∈ e.2.rules, isWithin (Matcher.ofRule rule) := by
    decide +kernel
  exact withinLimits_of_declared
    (fun e he rule hrule _ => ne_limit_of_isWithin (hall e he rule hrule)) h

/-- The inherited rule holds as it stands, not as a regular expression, and the directive is trimmed
twice. -/
theorem apply_of_document_of_family : ∃ s told parts,
    Snapshot.ofDocument family = .ok (s, told) ∧ apply s.matchersOf forInvoice given = .ok parts ∧
      parts = ⟨[similarRule], [exactRule, missing, counted, exactRule], some "p"⟩ ∧
      IsSuppressed family.profiles forInvoice exactRule ∧
      ¬ IsSuppressed family.profiles forInvoice similarRule := by
  have hproper : AllProper family.profiles := by
    intro e he
    rcases List.mem_cons.mp he with rfl | he
    · exact List.nodup_nil
    · obtain rfl := List.mem_singleton.mp he
      exact List.nodup_nil
  have hmade : ∀ d? ∈ forInvoice.adHoc, d?.all (fun d => (AdHoc.matcher? d).isOk) := by
    decide +kernel
  have hdirectives : ∀ directive, some directive ∈ forInvoice.adHoc →
      ∀ l, AdHoc.matcher? directive ≠ .error l := by
    intro directive hdirective l hl
    have hok : (AdHoc.matcher? directive).isOk = true := hmade _ hdirective
    rw [hl] at hok
    cases hok
  obtain ⟨s, told, parts, hdocument, -, happly, -, hit, hmeans, hsuppressed, -⟩ :=
    apply_of_document (r := forInvoice) given hproper (fun _ _ => withinLimits_family) hdirectives
  obtain ⟨x, hx, hparts⟩ := exists_eq_ok_of_any (by decide +kernel :
    (Snapshot.ofDocument family).toOption.any fun x =>
      (apply x.1.matchersOf forInvoice given).toOption.any fun parts =>
        decide (parts = ⟨[similarRule], [exactRule, missing, counted, exactRule], some "p"⟩))
  obtain rfl : x = (s, told) := Except.ok.inj (hx.symm.trans hdocument)
  rw [happly] at hparts
  have heq : parts = ⟨[similarRule], [exactRule, missing, counted, exactRule], some "p"⟩ :=
    of_decide_eq_true hparts
  rw [heq] at hsuppressed
  refine ⟨s, told, parts, hdocument, happly, heq, ?_, fun h => ?_⟩
  · have hmem : exactRule ∈ given.filter hit := hsuppressed ▸ List.mem_cons_self
    exact (hmeans exactRule).mp (List.mem_filter.mp hmem).2
  · have hmem : similarRule ∈ given.filter hit :=
      List.mem_filter.mpr ⟨by decide, (hmeans similarRule).mpr h⟩
    rw [← hsuppressed] at hmem
    revert hmem
    decide

end Suppression

/-! ## Texts as findings -/

/-- A finding with only a message. -/
def Finding.ofText (s : String) : Finding := { message := s }

/-- Only a message pattern looks at a text. -/
theorem MatchMode.target_ofText (mode : MatchMode) (s : String) :
    mode.target (.ofText s) = if mode == .textPattern then some s else none := by
  cases mode <;> rfl

theorem Matcher.accepts_ofText (m : Matcher) (s : String) :
    m.accepts (.ofText s) = (m.mode == .textPattern && m.pattern.accepts s) := by
  rw [accepts, MatchMode.target_ofText]
  cases m.mode == .textPattern <;> rfl

/-- Directives that come out well are within the limits. -/
theorem AdHoc.ne_error_of_isOk {ds : List (Option String)}
    (h : ∀ d? ∈ ds, d?.all fun d => (matcher? d).isOk) :
    ∀ directive, some directive ∈ ds → ∀ l, matcher? directive ≠ .error l := by
  intro directive hdirective l hl
  have hok : (matcher? directive).isOk = true := h _ hdirective
  rw [hl] at hok
  cases hok

namespace Suppression

/-- The rules for messages do with a text what all rules do with its finding. -/
theorem keepTexts_eq_filter (rules : List Matcher) (texts : List String) :
    keepTexts rules texts = texts.filter fun s => !rules.any (·.accepts (.ofText s)) := by
  unfold keepTexts
  simp only [List.any_filter, Matcher.accepts_ofText]

theorem active_divide (rules : List Matcher) (profileName : Option String) (findings : List Finding) :
    (divide rules profileName findings).active =
      findings.filter fun f => !rules.any (·.accepts f) := by
  simp [divide, List.partition_eq_filter_filter, Function.comp_def]

theorem messages_divide (rules : List Matcher) (profileName : Option String) (texts : List String) :
    (divide rules profileName (texts.map Finding.ofText)).active.map Finding.message =
      keepTexts rules texts := by
  rw [active_divide, keepTexts_eq_filter, List.filter_map, List.map_map]
  exact List.map_id _

/-- Findings are divided whatever the matchers of a profile are, if the directives are within the
limits. -/
theorem exists_apply {r : Request} (rulesOf : String → Option (List Matcher)) (findings : List Finding)
    (h : ∀ directive, some directive ∈ r.adHoc → ∀ l, AdHoc.matcher? directive ≠ .error l) :
    ∃ parts, apply rulesOf r findings = .ok parts := by
  obtain ⟨ms, hms, -⟩ := AdHoc.matchers_eq_ok h
  unfold apply gather
  rw [hms]
  cases findings with
  | nil => exact ⟨_, rfl⟩
  | cons f fs => exact ⟨_, rfl⟩

/-- Texts are kept in their order and as often as they are given, as the findings with these messages
are. A directive beyond a limit stops both in the same way, and nothing else stops them. -/
theorem applyTexts_eq_messages (rulesOf : String → Option (List Matcher)) (r : Request)
    (texts : List String) :
    applyTexts rulesOf r texts =
        (apply rulesOf r (texts.map Finding.ofText)).map (·.active.map Finding.message) ∧
      ((∀ directive, some directive ∈ r.adHoc → ∀ l, AdHoc.matcher? directive ≠ .error l) →
        ∃ parts, apply rulesOf r (texts.map Finding.ofText) = .ok parts ∧
          applyTexts rulesOf r texts = .ok (parts.active.map Finding.message)) := by
  have hagree : applyTexts rulesOf r texts =
      (apply rulesOf r (texts.map Finding.ofText)).map (·.active.map Finding.message) := by
    unfold applyTexts apply
    cases texts with
    | nil => rfl
    | cons s ss =>
        show (gather rulesOf r).map _ = ((gather rulesOf r).map _).map _
        cases gather rulesOf r with
        | error l => rfl
        | ok rules => exact congrArg Except.ok (messages_divide rules r.profileName (s :: ss)).symm
  refine ⟨hagree, fun hdirectives => ?_⟩
  obtain ⟨parts, hparts⟩ := exists_apply rulesOf (texts.map Finding.ofText) hdirectives
  exact ⟨parts, hparts, by rw [hagree, hparts]; rfl⟩

/-- Rules of every mode, with patterns that match any id and any test. -/
def greedyRules : List SuppressionRule :=
  [{ mode := .idPattern, pattern := ".*" }, { mode := .testPattern, pattern := ".*" },
    { mode := .idExact, pattern := "wrong" }, { mode := .testExact, pattern := "wrong" },
    { mode := .textPattern, pattern := "no .*", scope := ["INVOICE"] }]

/-- A request for these rules, with directives. -/
def forGreedy : Request :=
  ⟨some "greedy", [some "wrong", some "text:late.*", none, some "text:("], ["INVOICE"]⟩

def errors : List String := ["late by 3", "wrong", "no note", "wrong"]

/-- A text that a pattern for ids or tests would match is kept. -/
theorem applyTexts_eq_messages_of_greedy : ∃ ms faults parts,
    Matcher.ofRules greedyRules = .ok (ms, faults) ∧
    apply (fun _ => some ms) forGreedy (errors.map Finding.ofText) = .ok parts ∧
    applyTexts (fun _ => some ms) forGreedy errors = .ok (parts.active.map Finding.message) ∧
    parts.active.map Finding.message = ["wrong", "wrong"] := by
  obtain ⟨⟨ms, faults⟩, hrules, happly⟩ := exists_eq_ok_of_any (by decide +kernel :
    (Matcher.ofRules greedyRules).toOption.any fun x =>
      (apply (fun _ => some x.1) forGreedy (errors.map Finding.ofText)).toOption.any fun parts =>
        decide (parts.active.map Finding.message = ["wrong", "wrong"]))
  obtain ⟨parts, hparts, htexts⟩ :=
    (applyTexts_eq_messages (fun _ => some ms) forGreedy errors).2
      (AdHoc.ne_error_of_isOk (by decide +kernel))
  dsimp only at happly
  rw [hparts] at happly
  exact ⟨ms, faults, parts, hrules, hparts, htexts, of_decide_eq_true happly⟩

end Suppression

end Conformity

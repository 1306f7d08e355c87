import Conformity.Proofs.Suppression.Meaning

/-!
# Entries

What becomes of one entry of a list of rules or directives. The pattern of an exact mode stands for its
own text and can always be read, whichever characters it is made of (`exists_readPattern_of_isLiteral`).
A directive asks for one mode and one text (`AdHoc.Asks`, `AdHoc.existsUnique_asks`). One that asks for
an exact text that is not empty therefore always has a matcher, which accepts the findings that have the
text in the field of the mode (`AdHoc.Asks.exists_exact`). Beside other rules, it takes these findings
away from the active ones, and no others (`Suppression.exact_hits_only`).

Lists are written by people, and one bad pattern must not spoil the rest. Of a list of rules, those with
a pattern that is not blank and can be read have a matcher, in order, and the others that are not blank
are told; of a list of directives, those that ask for something that can be read have one. What becomes
of an entry depends on this entry alone. This is so exactly if no pattern is beyond a limit; one that is
ends the work, whatever stands beside it (`Suppression.each_alone_iff`).
-/

namespace Conformity

open Text (trim trimChars isBlankText)

/-! ## What a directive asks for -/

namespace AdHoc

variable {directive : String} {mode : MatchMode} {pattern : String}

/-- What a directive asks for: the mode, and the pattern for the field of the mode. -/
inductive Asks (directive : String) : MatchMode → String → Prop
  | test {rest : String} : trim directive = "test:" ++ rest → Asks directive .testExact (trim rest)
  | text {rest : String} : trim directive = "text:" ++ rest →
      Asks directive .textPattern (trim rest)
  | rule : (∀ rest, trim directive ≠ "test:" ++ rest) → (∀ rest, trim directive ≠ "text:" ++ rest) →
      Asks directive .idExact (trim directive)

theorem toList_trim (s : String) : (trim s).toList = trimChars s.toList := by
  rw [trim, String.toList_ofList]

/-- Every directive asks for something. -/
theorem exists_asks (directive : String) : ∃ mode pattern, Asks directive mode pattern := by
  by_cases htest : ∃ rest, trim directive = "test:" ++ rest
  · obtain ⟨rest, hrest⟩ := htest
    exact ⟨_, _, .test hrest⟩
  · by_cases htext : ∃ rest, trim directive = "text:" ++ rest
    · obtain ⟨rest, hrest⟩ := htext
      exact ⟨_, _, .text hrest⟩
    · exact ⟨_, _, .rule (not_exists.mp htest) (not_exists.mp htext)⟩

/-- It is what the directive is split into. -/
theorem Asks.split_eq (h : Asks directive mode pattern) :
    split (trimChars directive.toList) = (mode, pattern.toList) := by
  cases h with
  | test hrest => rw [split_of_test (trim_eq_append_iff.mp hrest), toList_trim]
  | text hrest => rw [split_of_text (trim_eq_append_iff.mp hrest), toList_trim]
  | rule htest htext =>
      rw [split_of_rule (after?_eq_none_iff.mpr htest) (after?_eq_none_iff.mpr htext), toList_trim]

/-- A directive asks for one thing only. -/
theorem Asks.unique {mode' : MatchMode} {pattern' : String} (h : Asks directive mode pattern)
    (h' : Asks directive mode' pattern') : mode = mode' ∧ pattern = pattern' := by
  have heq : (mode, pattern.toList) = (mode', pattern'.toList) := h.split_eq.symm.trans h'.split_eq
  rwa [Prod.mk.injEq, String.toList_inj] at heq

theorem existsUnique_asks (directive : String) :
    ∃! asked : MatchMode × String, Asks directive asked.1 asked.2 := by
  obtain ⟨mode, pattern, h⟩ := exists_asks directive
  refine ⟨(mode, pattern), h, ?_⟩
  rintro ⟨mode', pattern'⟩ h'
  obtain ⟨rfl, rfl⟩ := h'.unique h
  rfl

/-- A directive that asks for the empty text is dropped. -/
theorem Asks.matcher?_of_empty (h : Asks directive mode "") : matcher? directive = .ok none := by
  rw [matcher?, h.split_eq]
  rfl

/-- Any other one has the matcher of its pattern, if the pattern has one. -/
theorem Asks.matcher?_of_ne (h : Asks directive mode pattern) (hne : pattern ≠ "") :
    matcher? directive =
      match readPattern mode pattern with
      | .ok e => .ok (some ⟨mode, e, [], some description⟩)
      | .error (.malformed _) => .ok none
      | .error (.limit l) => .error l := by
  have hfilled : pattern.toList.isEmpty = false := by simpa using hne
  rw [matcher?, h.split_eq]
  dsimp only
  rw [hfilled, String.ofList_toList]
  rfl

/-- The matcher of an exact text accepts the findings with this text. -/
theorem Asks.exists_exact (h : Asks directive mode pattern) (hmode : mode.isLiteral)
    (hne : pattern ≠ "") :
    ∃ m, matcher? directive = .ok (some m) ∧ ∀ f, m.accepts f ↔ mode.target f = some pattern := by
  obtain ⟨e, he, haccepts⟩ := exists_readPattern_of_isLiteral hmode pattern
  refine ⟨⟨mode, e, [], some description⟩, ?_, ?_⟩
  · rw [h.matcher?_of_ne hne, he]
  · intro f
    rw [Matcher.accepts_iff]
    constructor
    · rintro ⟨s, hs, hmatch⟩
      rw [hs, (haccepts s).mp hmatch]
    · intro hf
      exact ⟨pattern, hf, (haccepts pattern).mpr rfl⟩

end AdHoc

/-! ## One more directive -/

namespace Suppression

open AdHoc (Asks)

variable {rulesOf : String → Option (List Matcher)} {r : Request} {directive : String}
  {m : Matcher} {findings : List Finding} {parts : Partition}

/-- A request with one more directive. -/
def Request.also (r : Request) (directive : String) : Request :=
  { r with adHoc := r.adHoc ++ [some directive] }

theorem matchers_append (ds ds' : List (Option String)) :
    AdHoc.matchers (ds ++ ds') =
      (AdHoc.matchers ds).bind fun ms => (AdHoc.matchers ds').map (ms ++ ·) := by
  induction ds with
  | nil => cases h : AdHoc.matchers ds' <;> simp [AdHoc.matchers, Except.bind, Except.map, h]
  | cons d ds ih =>
      cases d with
      | none => exact ih
      | some d =>
          rw [List.cons_append, AdHoc.matchers, AdHoc.matchers, ih]
          cases AdHoc.matcher? d with
          | error l => rfl
          | ok m? =>
              cases AdHoc.matchers ds with
              | error l => rfl
              | ok ms =>
                  cases AdHoc.matchers ds' with
                  | error l => rfl
                  | ok ms' => exact congrArg Except.ok (List.append_assoc m?.toList ms ms').symm

/-- The rules in force are those there were, and the matcher of the directive. -/
theorem gather_also (hm : AdHoc.matcher? directive = .ok (some m)) :
    gather rulesOf (r.also directive) = (gather rulesOf r).map (· ++ [m]) := by
  have hone : AdHoc.matchers [some directive] = .ok [m] := by
    rw [AdHoc.matchers, hm]
    rfl
  unfold gather Request.also
  dsimp only
  rw [matchers_append, hone]
  cases AdHoc.matchers r.adHoc with
  | error l => rfl
  | ok ms => exact congrArg Except.ok (List.append_assoc _ ms [m]).symm

theorem suppressed_divide (rules : List Matcher) (profileName : Option String)
    (findings : List Finding) :
    (divide rules profileName findings).suppressed =
      findings.filter fun f => rules.any (·.accepts f) := by
  simp [divide, List.partition_eq_filter_filter]

/-- With one more matcher, exactly the findings that it accepts go over from the active ones to the
others. -/
theorem apply_also (hm : AdHoc.matcher? directive = .ok (some m))
    (h : apply rulesOf r findings = .ok parts) :
    ∃ parts', apply rulesOf (r.also directive) findings = .ok parts' ∧
      parts'.active = parts.active.filter (!m.accepts ·) ∧
      parts'.suppressed = findings.filter fun f => f ∈ parts.suppressed ∨ m.accepts f := by
  unfold apply at h ⊢
  cases findings with
  | nil =>
      cases h
      exact ⟨_, rfl, rfl, rfl⟩
  | cons f fs =>
      obtain ⟨rules, hrules, rfl⟩ := map_eq_ok.mp h
      refine ⟨divide (rules ++ [m]) r.profileName (f :: fs), ?_, ?_, ?_⟩
      · rw [gather_also hm, hrules]
        rfl
      · rw [active_divide, active_divide, List.filter_filter]
        simp [List.any_append, Bool.and_comm]
      · rw [suppressed_divide, suppressed_divide]
        apply List.filter_congr
        intro g hg
        -- a finding that is given was suppressed exactly if a rule in force accepts it
        rw [Bool.eq_iff_iff]
        simp [List.mem_filter, hg]

/-- The pattern of an exact mode can be read, whatever its text is, and matches this text only. Every
directive asks for one mode and one text. One that asks for an exact text has a matcher for the findings
with this text in the field of its mode; beside all other rules and directives, it suppresses these
findings and no others. -/
theorem exact_hits_only (pattern : String) :
    (∀ mode : MatchMode, mode.isLiteral →
      ∃ e, readPattern mode pattern = .ok e ∧ ∀ s, e.accepts s ↔ s = pattern) ∧
    (∀ directive, ∃! asked : MatchMode × String, Asks directive asked.1 asked.2) ∧
    ∀ directive mode, Asks directive mode pattern → mode.isLiteral → pattern ≠ "" →
      (∃ m, AdHoc.matcher? directive = .ok (some m) ∧
        ∀ f, m.accepts f ↔ mode.target f = some pattern) ∧
      ∀ rulesOf r findings parts, apply rulesOf r findings = .ok parts →
        ∃ parts', apply rulesOf (r.also directive) findings = .ok parts' ∧
          parts'.active = parts.active.filter (mode.target · != some pattern) ∧
          parts'.suppressed =
            findings.filter fun f => f ∈ parts.suppressed ∨ mode.target f = some pattern := by
  refine ⟨fun mode hmode => exists_readPattern_of_isLiteral hmode pattern,
    AdHoc.existsUnique_asks, ?_⟩
  intro directive mode hasks hmode hne
  obtain ⟨m, hm, haccepts⟩ := hasks.exists_exact hmode hne
  refine ⟨⟨m, hm, haccepts⟩, ?_⟩
  intro rulesOf r findings parts happly
  obtain ⟨parts', hparts, hactive, hsuppressed⟩ := apply_also hm happly
  have hfield : ∀ f, (!m.accepts f) = (mode.target f != some pattern) := by
    intro f
    rw [bne, Bool.eq_iff_iff.mpr (haccepts f |>.trans beq_iff_eq.symm)]
  refine ⟨parts', hparts, ?_, ?_⟩
  · rw [hactive]
    exact List.filter_congr fun f _ => hfield f
  · simp only [hsuppressed, haccepts]

/-- A directive for a test. -/
def forSecondLine : String := " test: count(//cac:Line[2]) = 1 "

/-- A finding of this test. -/
def secondLine : Finding := { test := some "count(//cac:Line[2]) = 1", message := "no second line" }

/-- A finding of a test that the text of the directive would match as a regular expression. -/
def otherLine : Finding := { test := some "count//cac:Line2 = 1", message := "no second line" }

/-- It suppresses the findings of exactly its own test, as often as they are given. -/
theorem exact_hits_only_of_second_line :
    Asks forSecondLine .testExact "count(//cac:Line[2]) = 1" ∧
      ∃ parts, apply (fun _ => none) (Request.also {} forSecondLine)
          [secondLine, otherLine, exactRule, secondLine] = .ok parts ∧
        parts.suppressed = [secondLine, secondLine] ∧ parts.active = [otherLine, exactRule] := by
  have hasks : Asks forSecondLine .testExact "count(//cac:Line[2]) = 1" := by
    have htrim : trim forSecondLine = "test:" ++ " count(//cac:Line[2]) = 1" := by decide +kernel
    have hrest : trim " count(//cac:Line[2]) = 1" = "count(//cac:Line[2]) = 1" := by decide +kernel
    rw [← hrest]
    exact .test htrim
  obtain ⟨-, -, hdirective⟩ := exact_hits_only "count(//cac:Line[2]) = 1"
  obtain ⟨-, hbeside⟩ := hdirective _ _ hasks rfl (by decide)
  obtain ⟨parts, hparts, hactive, hsuppressed⟩ :=
    hbeside (fun _ => none) {} [secondLine, otherLine, exactRule, secondLine] _ rfl
  refine ⟨hasks, parts, hparts, ?_, ?_⟩
  · rw [hsuppressed]
    decide
  · rw [hactive]
    decide

end Suppression

/-! ## Gathering -/

section Gathering

variable {α β ε : Type} {R : α → β → Prop}

/-- What the members of a list give, in order, as far as they give anything. -/
inductive Gathers (R : α → β → Prop) : List α → List β → Prop
  | nil : Gathers R [] []
  | gives {x : α} {y : β} {xs : List α} {ys : List β} : R x y → Gathers R xs ys →
      Gathers R (x :: xs) (y :: ys)
  | skips {x : α} {xs : List α} {ys : List β} : (∀ y, ¬ R x y) → Gathers R xs ys →
      Gathers R (x :: xs) ys

theorem gathers_filterMap {f : α → Option β} {xs : List α}
    (h : ∀ x ∈ xs, ∀ y, f x = some y ↔ R x y) : Gathers R xs (xs.filterMap f) := by
  induction xs with
  | nil => exact .nil
  | cons x xs ih =>
      rw [List.forall_mem_cons] at h
      cases hx : f x with
      | none =>
          rw [List.filterMap_cons_none hx]
          refine .skips ?_ (ih h.2)
          intro y hy
          rw [← h.1 y, hx] at hy
          cases hy
      | some y =>
          rw [List.filterMap_cons_some hx]
          exact .gives ((h.1 y).mp hx) (ih h.2)

/-- Work that ends well under a condition, and fails without it. -/
theorem ends_iff {P : Prop} {Q : α → Prop} {x : Except ε α} (hok : P → ∃ a, x = .ok a ∧ Q a)
    (herror : ¬ P → ∃ e, x = .error e) :
    ((∃ a, x = .ok a ∧ Q a) ↔ P) ∧ ((∃ e, x = .error e) ↔ ¬ P) := by
  by_cases hP : P
  · obtain ⟨a, rfl, ha⟩ := hok hP
    exact ⟨iff_of_true ⟨a, rfl, ha⟩ hP, iff_of_false (by simp) (not_not.mpr hP)⟩
  · obtain ⟨e, rfl⟩ := herror hP
    exact ⟨iff_of_false (by simp) hP, iff_of_true ⟨e, rfl⟩ hP⟩

end Gathering

/-! ## Rules by themselves -/

namespace SuppressionRule

variable {r : SuppressionRule}

/-- A rule has a matcher: its pattern is not blank and can be read. -/
structure Makes (r : SuppressionRule) (m : Matcher) : Prop where
  notBlank : ¬ isBlankText r.pattern
  made : ∃ e, readPattern r.mode r.pattern = .ok e ∧ m = ⟨r.mode, e, r.scope, r.description⟩

/-- A rule is refused with a fault: its pattern is not blank and cannot be read. -/
structure IsRefused (r : SuppressionRule) (f : PatternFault) : Prop where
  notBlank : ¬ isBlankText r.pattern
  unread : ∀ e, readPattern r.mode r.pattern ≠ .ok e
  pattern : f.pattern = r.pattern
  told : ∀ f', readPattern r.mode r.pattern = .error (.malformed f') → f = f'

/-- The pattern of a rule is blank, or not beyond a limit. -/
def IsWithin (r : SuppressionRule) : Prop :=
  ¬ isBlankText r.pattern → ∀ l, readPattern r.mode r.pattern ≠ .error (.limit l)

theorem ofRule_eq_error_iff {x : PatternRefusal} :
    Matcher.ofRule r = .error x ↔ readPattern r.mode r.pattern = .error x := by
  unfold Matcher.ofRule
  cases readPattern r.mode r.pattern <;> simp [Except.map]

theorem pattern_of_malformed {mode : MatchMode} {pattern : String} {f : PatternFault}
    (h : readPattern mode pattern = .error (.malformed f)) : f.pattern = pattern := by
  unfold readPattern at h
  dsimp only at h
  generalize (if mode.isLiteral then Regex.literalPattern pattern.toList else pattern.toList) = text
    at h
  cases hread : Regex.parse text with
  | ok e => simp [hread] at h
  | error fault =>
      rw [hread] at h
      cases fault with
      | malformed cause position =>
          cases h
          rfl
      | repeatTooLarge => cases h
      | flagConflict => cases h

theorem makes_iff {m : Matcher} :
    (if isBlankText r.pattern then none else (Matcher.ofRule r).toOption) = some m ↔ r.Makes m := by
  constructor
  · intro h
    split at h
    · cases h
    · next hblank =>
      obtain ⟨e, he, rfl⟩ := map_eq_ok.mp (eq_ok_of_toOption h)
      exact ⟨hblank, e, he, rfl⟩
  · rintro ⟨hblank, e, he, rfl⟩
    rw [if_neg hblank, Matcher.ofRule, he]
    rfl

/-- A rule whose pattern is not beyond a limit is refused with what is told of it. -/
theorem isRefused_iff (h : r.IsWithin) {f : PatternFault} :
    (if isBlankText r.pattern then none
      else
        match Matcher.ofRule r with
        | .error (.malformed f) => some f
        | _ => none) = some f ↔ r.IsRefused f := by
  by_cases hblank : isBlankText r.pattern
  · rw [if_pos hblank]
    exact iff_of_false (by simp) fun hrefused => hrefused.notBlank hblank
  · rw [if_neg hblank]
    cases hr : Matcher.ofRule r with
    | ok m =>
        obtain ⟨e, he, -⟩ := map_eq_ok.mp hr
        exact iff_of_false (by simp) fun hrefused => hrefused.unread e he
    | error x =>
        rw [ofRule_eq_error_iff] at hr
        cases x with
        | limit l => exact absurd hr (h hblank l)
        | malformed g =>
            constructor
            · rintro ⟨⟩
              exact ⟨hblank, by simp [hr], pattern_of_malformed hr, by simp [hr]⟩
            · intro hrefused
              rw [hrefused.told g hr]

theorem withinLimits_of_isWithin {p : Profile} (h : ∀ r ∈ p.rules, r.IsWithin) : p.WithinLimits := by
  intro r hr hblank l hl
  exact h r hr hblank l (ofRule_eq_error_iff.mp hl)

theorem not_withinLimits {p : Profile} (h : ¬ ∀ r ∈ p.rules, r.IsWithin) : ¬ p.WithinLimits := by
  intro hlimits
  apply h
  intro r hr hblank l hl
  exact hlimits r hr hblank l (ofRule_eq_error_iff.mpr hl)

end SuppressionRule

/-! ## Directives by themselves -/

namespace AdHoc

variable {directive : String} {entry : Option String} {m : Matcher}

/-- An entry has a matcher: it is a directive that asks for something, and this can be read. -/
def Makes (entry : Option String) (m : Matcher) : Prop :=
  ∃ directive mode pattern e, entry = some directive ∧ Asks directive mode pattern ∧ pattern ≠ "" ∧
    readPattern mode pattern = .ok e ∧ m = ⟨mode, e, [], some description⟩

/-- What an entry asks for, if it asks for something, is not beyond a limit. -/
def IsWithin (entry : Option String) : Prop :=
  ∀ directive mode pattern, entry = some directive → Asks directive mode pattern → pattern ≠ "" →
    ∀ l, readPattern mode pattern ≠ .error (.limit l)

theorem isWithin_some_iff : IsWithin (some directive) ↔ ∀ l, matcher? directive ≠ .error l := by
  obtain ⟨mode, pattern, hasks⟩ := exists_asks directive
  constructor
  · intro h l hl
    by_cases hempty : pattern = ""
    · subst hempty
      rw [hasks.matcher?_of_empty] at hl
      cases hl
    · rw [hasks.matcher?_of_ne hempty] at hl
      split at hl
      · cases hl
      · cases hl
      · next l' hread =>
        cases hl
        exact h directive mode pattern rfl hasks hempty l hread
  · rintro h _ mode' pattern' ⟨⟩ hasks' hne l hread
    apply h l
    rw [hasks'.matcher?_of_ne hne, hread]

theorem matcher?_eq_some_iff : matcher? directive = .ok (some m) ↔ Makes (some directive) m := by
  constructor
  · intro h
    obtain ⟨mode, pattern, hasks⟩ := exists_asks directive
    by_cases hempty : pattern = ""
    · subst hempty
      rw [hasks.matcher?_of_empty] at h
      cases h
    · rw [hasks.matcher?_of_ne hempty] at h
      split at h
      · next e hread =>
        cases h
        exact ⟨directive, mode, pattern, e, rfl, hasks, hempty, hread, rfl⟩
      · cases h
      · cases h
  · rintro ⟨_, mode, pattern, e, ⟨⟩, hasks, hne, hread, rfl⟩
    rw [hasks.matcher?_of_ne hne, hread]

theorem heeded?_eq_some_iff_makes : heeded? entry = some m ↔ Makes entry m := by
  rw [heeded?_eq_some_iff]
  constructor
  · rintro ⟨d, rfl, hd⟩
    exact matcher?_eq_some_iff.mp hd
  · intro h
    have hd := h
    obtain ⟨d, mode, pattern, e, rfl, -⟩ := h
    exact ⟨d, rfl, matcher?_eq_some_iff.mpr hd⟩

theorem exists_matchers_eq_error {ds : List (Option String)} (h : ¬ ∀ entry ∈ ds, IsWithin entry) :
    ∃ l, matchers ds = .error l := by
  induction ds with
  | nil => exact absurd (by simp) h
  | cons entry ds ih =>
      rw [List.forall_mem_cons] at h
      by_cases hrest : ∀ entry ∈ ds, IsWithin entry
      · -- the rest is heeded, so that it is the first entry that is beyond a limit
        have hentry : ¬ IsWithin entry := fun hentry => h ⟨hentry, hrest⟩
        cases entry with
        | none => exact absurd (by simp [IsWithin]) hentry
        | some directive =>
            rw [isWithin_some_iff, not_forall] at hentry
            obtain ⟨l, hl⟩ := hentry
            exact ⟨l, by rw [matchers, not_not.mp hl]; rfl⟩
      · obtain ⟨l, hl⟩ := ih hrest
        cases entry with
        | none => exact ⟨l, hl⟩
        | some directive =>
            rw [matchers, hl]
            cases matcher? directive with
            | error l' => exact ⟨l', rfl⟩
            | ok m? => exact ⟨l, rfl⟩

end AdHoc

/-! ## Lists -/

namespace Suppression

/-- Rules and directives are dealt with one by one, in order, exactly if no pattern among them is
beyond a limit: the rules with a pattern that is not blank and can be read have a matcher, each other
one that is not blank is refused with a fault, and the directives that ask for something that can be
read have a matcher. If a pattern is beyond a limit, there is nothing but an error. -/
theorem each_alone_iff (rs : List SuppressionRule) (ds : List (Option String)) :
    (((∃ ready, Matcher.ofRules rs = .ok ready ∧ Gathers SuppressionRule.Makes rs ready.1 ∧
        Gathers SuppressionRule.IsRefused rs ready.2) ↔ ∀ r ∈ rs, r.IsWithin) ∧
      ((∃ l, Matcher.ofRules rs = .error l) ↔ ¬ ∀ r ∈ rs, r.IsWithin)) ∧
    ((∃ ms, AdHoc.matchers ds = .ok ms ∧ Gathers AdHoc.Makes ds ms) ↔
        ∀ entry ∈ ds, AdHoc.IsWithin entry) ∧
      ((∃ l, AdHoc.matchers ds = .error l) ↔ ¬ ∀ entry ∈ ds, AdHoc.IsWithin entry) := by
  let p : Profile := { name := "", rules := rs }
  refine ⟨ends_iff (fun h => ?_) (fun h => ?_), ends_iff (fun h => ?_) (fun h => ?_)⟩
  · refine ⟨(p.matchers, p.patternFaults),
      ofRules_eq_ok (SuppressionRule.withinLimits_of_isWithin (p := p) h), ?_, ?_⟩
    · exact gathers_filterMap fun r _ m => SuppressionRule.makes_iff
    · exact gathers_filterMap fun r hr f => SuppressionRule.isRefused_iff (h r hr)
  · exact exists_ofRules_eq_error (SuppressionRule.not_withinLimits (p := p) h)
  · refine ⟨ds.filterMap AdHoc.heeded?, ?_, ?_⟩
    · exact AdHoc.matchers_eq_filterMap fun d hd => AdHoc.isWithin_some_iff.mp (h (some d) hd)
    · exact gathers_filterMap fun entry _ m => AdHoc.heeded?_eq_some_iff_makes
  · exact AdHoc.exists_matchers_eq_error h

/-- A blank rule, a malformed one, and one for the text of the malformed one. -/
def mixedRules : List SuppressionRule :=
  [{ pattern := " \t" }, { pattern := "R(1" }, { mode := .idExact, pattern := "R(1" }]

/-- Entries of every sort: only the last one has a matcher. -/
def mixedDirectives : List (Option String) :=
  [none, some " ", some "test: ", some "text:R(1", some " R(1 "]

/-- The sound entries are kept, whatever stands in front of them. -/
theorem each_alone_of_mixed :
    (∃ ready, Matcher.ofRules mixedRules = .ok ready ∧
      Gathers SuppressionRule.Makes mixedRules ready.1 ∧
      Gathers SuppressionRule.IsRefused mixedRules ready.2 ∧
      ready.1.map Matcher.mode = [.idExact] ∧ ready.2.map PatternFault.pattern = ["R(1"]) ∧
    ∃ ms, AdHoc.matchers mixedDirectives = .ok ms ∧ Gathers AdHoc.Makes mixedDirectives ms ∧
      ms.map Matcher.mode = [.idExact] := by
  obtain ⟨⟨hrules, -⟩, hdirectives, -⟩ := each_alone_iff mixedRules mixedDirectives
  have hread : ∀ r ∈ mixedRules, isWithin (readPattern r.mode r.pattern) := by decide +kernel
  have hheeded : ∀ d? ∈ mixedDirectives, d?.all fun d => (AdHoc.matcher? d).isOk := by
    decide +kernel
  obtain ⟨ready, hready, hmade, hrefused⟩ :=
    hrules.mpr fun r hr _ => ne_limit_of_isWithin (hread r hr)
  obtain ⟨ms, hms, hmakes⟩ := hdirectives.mpr fun entry hentry => by
    cases entry with
    | none => simp [AdHoc.IsWithin]
    | some d => exact AdHoc.isWithin_some_iff.mpr (AdHoc.ne_error_of_isOk hheeded d hentry)
  have hmodes : (Matcher.ofRules mixedRules).toOption.map
      (fun x => (x.1.map Matcher.mode, x.2.map PatternFault.pattern)) =
        some ([.idExact], ["R(1"]) := by decide +kernel
  have hmode : (AdHoc.matchers mixedDirectives).toOption.map (·.map Matcher.mode) =
      some [.idExact] := by decide +kernel
  rw [hready] at hmodes
  rw [hms] at hmode
  obtain ⟨hkept, hfaults⟩ := Prod.mk.inj (Option.some.inj hmodes)
  exact ⟨⟨ready, hready, hmade, hrefused, hkept, hfaults⟩, ms, hms, hmakes, Option.some.inj hmode⟩

/-- One pattern beyond a limit leaves nothing of the sound entries beside it. -/
theorem each_alone_fails_of_limit :
    Matcher.ofRules [{ pattern := "x\x7b99999999999\x7d" }, { mode := .idExact, pattern := "R1" }] =
        .error .repeatTooLarge ∧
      AdHoc.matchers [some "text:x\x7b99999999999\x7d", some "R1"] = .error .repeatTooLarge ∧
      AdHoc.matchers [some "text:(?a)(?u)x", some "R1"] = .error .flagConflict :=
  ⟨rfl, rfl, rfl⟩

end Suppression

end Conformity

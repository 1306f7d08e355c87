import Mathlib.Data.List.ProdSigma
import Conformity.Impact.Warning
import Conformity.Proofs.Suppression.Meaning
import Conformity.Proofs.Text.Order
import Conformity.Proofs.Text.Trim

/-!
# Suppressions that a change breaks

A rule works for a rule id if it is kept when rules are made ready and its matcher matches the findings
of the id. Whether it does is found out in two ways, once when findings are suppressed and once when
ids are removed. They agree, and the warnings about a change are those about the rules that work for
the removed ids, except for a malformed pattern with the text of such an id, and for patterns beyond a
limit (`Impact.warnings_eq_broken_iff`).
-/

namespace Conformity

open Text (IsTrimmed isBlank isBlankText)

/-! ## Patterns -/

theorem not_active_of_isBlank {c : Char} (h : isBlank c) : c ∉ Regex.activeChars := by
  intro hactive
  unfold Regex.activeChars at hactive
  simp only [List.mem_cons, List.not_mem_nil, or_false] at hactive
  revert h
  rcases hactive with rfl | rfl | rfl | rfl | rfl | rfl | rfl | rfl | rfl | rfl | rfl | rfl <;> decide

/-- The pattern of an exact text matches this text only. -/
theorem accepts_of_isLiteral {mode : MatchMode} {pattern s : String} {e : Regex.Expr}
    (hmode : mode.isLiteral) (h : readPattern mode pattern = .ok e) :
    e.accepts s ↔ s = pattern := by
  obtain ⟨e', he', haccepts⟩ := exists_readPattern_of_isLiteral hmode pattern
  cases h.symm.trans he'
  exact haccepts s

/-- So does a blank pattern, for no blank has a meaning of its own. -/
theorem accepts_of_isBlankText {mode : MatchMode} {pattern s : String} {e : Regex.Expr}
    (hblank : isBlankText pattern) (h : readPattern mode pattern = .ok e) :
    e.accepts s ↔ s = pattern := by
  by_cases hmode : mode.isLiteral
  · exact accepts_of_isLiteral hmode h
  · have hinactive : ∀ c ∈ pattern.toList, c ∉ Regex.activeChars := fun c hc =>
      not_active_of_isBlank (List.all_eq_true.mp hblank c hc)
    rw [readPattern, if_neg hmode, Regex.parse_of_inactive hinactive] at h
    cases h
    rw [Regex.Expr.accepts, Regex.matchesAll_literal, String.toList_inj]

/-- An exact text is never refused. -/
theorem not_isLiteral_of_error {mode : MatchMode} {pattern : String} {x : PatternRefusal}
    (h : readPattern mode pattern = .error x) : ¬ mode.isLiteral := by
  intro hmode
  obtain ⟨e, he, -⟩ := exists_readPattern_of_isLiteral hmode pattern
  cases h.symm.trans he

namespace Impact

variable {mode : MatchMode} {pattern id : String} {e : Regex.Expr}

theorem patternMatches_of_ok (h : readPattern mode pattern = .ok e) :
    patternMatches mode pattern id = .ok (e.accepts id) := by
  unfold patternMatches
  split
  · next hmode =>
    have haccepts : e.accepts id = (pattern == id) := by
      rw [Bool.eq_iff_iff, accepts_of_isLiteral hmode h, beq_iff_eq, eq_comm]
    rw [haccepts]
  · rw [h]

theorem patternMatches_of_malformed {f : PatternFault}
    (h : readPattern mode pattern = .error (.malformed f)) :
    patternMatches mode pattern id = .ok (pattern == id) := by
  rw [patternMatches, if_neg (not_isLiteral_of_error h), h]

theorem patternMatches_of_limit {l : PatternLimit}
    (h : readPattern mode pattern = .error (.limit l)) :
    patternMatches mode pattern id = .error l := by
  rw [patternMatches, if_neg (not_isLiteral_of_error h), h]

end Impact

/-! ## Rules that work -/

namespace SuppressionRule

variable {r : SuppressionRule} {id : String}

/-- Is the pattern of the rule no regular expression? -/
def isMalformed (r : SuppressionRule) : Bool :=
  match readPattern r.mode r.pattern with
  | .error (.malformed _) => true
  | _ => false

/-- Is the pattern of the rule beyond a limit? -/
def isBeyondLimit (r : SuppressionRule) : Bool :=
  match readPattern r.mode r.pattern with
  | .error (.limit _) => true
  | _ => false

/-- Is the rule kept when rules are made ready, and does its matcher match a finding of the rule
id? -/
def worksFor (r : SuppressionRule) (id : String) : Bool :=
  match Matcher.ofRules [r] with
  | .ok (ms, _) => ms.any fun m => m.accepts { ruleId := some id, message := "" }
  | .error _ => false

theorem target_of_isIdMode {mode : MatchMode} (hmode : mode.isIdMode) (f : Finding) :
    mode.target f = f.ruleId := by
  cases mode with
  | idExact | idPattern => rfl
  | testExact | testPattern | textPattern => cases hmode

theorem ofRules_of_ok {e : Regex.Expr} (hblank : ¬ isBlankText r.pattern)
    (h : readPattern r.mode r.pattern = .ok e) :
    Matcher.ofRules [r] = .ok ([⟨r.mode, e, r.scope, r.description⟩], []) := by
  rw [Matcher.ofRules, if_neg hblank, Matcher.ofRule, h]
  rfl

theorem worksFor_of_ok {e : Regex.Expr} (hmode : r.mode.isIdMode)
    (h : readPattern r.mode r.pattern = .ok e) :
    r.worksFor id = (!isBlankText r.pattern && e.accepts id) := by
  unfold worksFor
  by_cases hblank : isBlankText r.pattern
  · rw [Matcher.ofRules, if_pos hblank, hblank]
    rfl
  · rw [ofRules_of_ok hblank h, Bool.eq_false_iff.mpr hblank]
    simp only [List.any_cons, List.any_nil, Bool.or_false, Bool.not_false, Bool.true_and]
    rw [Matcher.accepts, target_of_isIdMode hmode]
    rfl

theorem worksFor_of_error {x : PatternRefusal} (h : readPattern r.mode r.pattern = .error x) :
    r.worksFor id = false := by
  unfold worksFor
  rw [Matcher.ofRules, Matcher.ofRule, h]
  by_cases hblank : isBlankText r.pattern
  · rw [if_pos hblank]
    rfl
  · rw [if_neg hblank]
    cases x <;> rfl

theorem worksFor_of_isMalformed (h : r.isMalformed) : r.worksFor id = false := by
  unfold isMalformed at h
  split at h
  · next f hread => exact worksFor_of_error hread
  · cases h

/-- A rule that works for an id is one whose matcher matches all findings of the id. -/
theorem worksFor_iff (hmode : r.mode.isIdMode) : r.worksFor id ↔
    ∃ m, Matcher.ofRules [r] = .ok ([m], []) ∧ ∀ f : Finding, f.ruleId = some id → m.accepts f := by
  constructor
  · intro h
    cases hread : readPattern r.mode r.pattern with
    | error x =>
        rw [worksFor_of_error hread] at h
        cases h
    | ok e =>
        rw [worksFor_of_ok hmode hread, Bool.and_eq_true, Bool.not_eq_true'] at h
        refine ⟨_, ofRules_of_ok (by simp [h.1]) hread, fun f hf => ?_⟩
        rw [Matcher.accepts, target_of_isIdMode hmode, hf]
        exact h.2
  · rintro ⟨m, hm, haccepts⟩
    unfold worksFor
    rw [hm]
    simpa using haccepts _ rfl

/-- Among the rules of a profile, too: what the matchers for rule ids accept are the findings of the ids
that some rule works for. -/
theorem exists_matcher_iff {p : Profile} {ms : List Matcher} {faults : List PatternFault}
    (h : Matcher.ofRules p.rules = .ok (ms, faults)) {f : Finding} (hf : f.ruleId = some id) :
    (∃ m ∈ ms, m.mode.isIdMode ∧ m.accepts f) ↔ ∃ r ∈ p.rules, r.mode.isIdMode ∧ r.worksFor id := by
  have hlimits : p.WithinLimits := by
    by_contra hlimits
    obtain ⟨l, hl⟩ := exists_ofRules_eq_error hlimits
    rw [h] at hl
    cases hl
  cases (ofRules_eq_ok hlimits).symm.trans h
  constructor
  · rintro ⟨m, hm, hmode, haccepts⟩
    obtain ⟨r, hr, hblank, e, he, rfl⟩ := mem_matchers.mp hm
    refine ⟨r, hr, hmode, ?_⟩
    rw [Matcher.accepts, target_of_isIdMode hmode, hf] at haccepts
    rw [worksFor_of_ok hmode he, Bool.eq_false_iff.mpr hblank]
    exact haccepts
  · rintro ⟨r, hr, hmode, hworks⟩
    cases hread : readPattern r.mode r.pattern with
    | error x =>
        rw [worksFor_of_error hread] at hworks
        cases hworks
    | ok e =>
        rw [worksFor_of_ok hmode hread, Bool.and_eq_true, Bool.not_eq_true'] at hworks
        refine ⟨_, mem_matchers.mpr ⟨r, hr, by simp [hworks.1], e, hread, rfl⟩, hmode, ?_⟩
        rw [Matcher.accepts, target_of_isIdMode hmode, hf]
        exact hworks.2

end SuppressionRule

namespace Impact

/-! ## Removed ids -/

theorem ruleId?_eq_some {n : Markup.Node} {id : String} (h : ruleId? n = some id) :
    IsTrimmed id ∧ ¬ isBlankText id := by
  unfold ruleId? at h
  split at h
  · split at h
    · obtain ⟨hid, hempty⟩ := Option.filter_eq_some_iff.mp h
      obtain ⟨s, -, rfl⟩ := Option.map_eq_some_iff.mp hid
      rw [Bool.not_eq_true', Text.isEmpty_trim] at hempty
      exact ⟨Text.isTrimmed_trim s, by rw [Text.isBlankText_trim, hempty]; simp⟩
    · cases h
  · cases h

theorem of_mem_ruleIds {source : Option Bytes} {ids : List String} {id : String}
    (h : ruleIds source = .ok ids) (hid : id ∈ ids) : IsTrimmed id ∧ ¬ isBlankText id := by
  unfold ruleIds at h
  split at h
  · cases h
    cases hid
  · split at h
    · cases h
      obtain ⟨n, -, hn⟩ := List.mem_filterMap.mp (Text.mem_sortedSet.mp hid)
      exact ruleId?_eq_some hn
    · cases h
      cases hid
    · cases h

/-- The ids that are removed between two sources are trimmed and not blank. -/
theorem of_mem_removed {old new : Option Bytes} {change : IdChange} {id : String}
    (h : IdChange.ofSources old new = .ok change) (hid : id ∈ change.removed) :
    IsTrimmed id ∧ ¬ isBlankText id := by
  obtain ⟨olds, holds, h⟩ := bind_eq_ok.mp h
  obtain ⟨news, -, h⟩ := bind_eq_ok.mp h
  cases h
  exact of_mem_ruleIds holds (List.mem_filter.mp hid).1

variable {t : Tolerance} {profiles : List Profile} {change : IdChange} {r : SuppressionRule}
  {id : String}

/-- The two ways agree, except for malformed patterns. -/
theorem patternMatches_eq (hmode : r.mode.isIdMode) (hid : ¬ isBlankText id)
    (hlimit : ¬ r.isBeyondLimit) : patternMatches r.mode r.pattern id =
      .ok (r.worksFor id || r.isMalformed && r.pattern == id) := by
  unfold SuppressionRule.isBeyondLimit at hlimit
  unfold SuppressionRule.isMalformed
  rcases hread : readPattern r.mode r.pattern with (f | l) | e
  · rw [patternMatches_of_malformed hread, SuppressionRule.worksFor_of_error hread]
    rfl
  · rw [hread] at hlimit
    exact absurd rfl hlimit
  · rw [patternMatches_of_ok hread, SuppressionRule.worksFor_of_ok hmode hread]
    by_cases hblank : isBlankText r.pattern
    · have hother : ¬ e.accepts id := fun haccepts =>
        hid ((accepts_of_isBlankText hblank hread).mp haccepts ▸ hblank)
      simp [hother, hblank]
    · simp [hblank]

theorem exists_patternMatches_eq_error (hlimit : r.isBeyondLimit) :
    ∃ l, patternMatches r.mode r.pattern id = .error l := by
  unfold SuppressionRule.isBeyondLimit at hlimit
  split at hlimit
  · next l hread => exact ⟨l, patternMatches_of_limit hread⟩
  · cases hlimit

/-! ## Warnings -/

/-- The removed ids, each with each rule that looks at rule ids. -/
def concerns (profiles : List Profile) (change : IdChange) :
    List (String × String × SuppressionRule) :=
  change.removed.product (idRules profiles)

/-- The warning about a rule and a removed id. -/
def warning (t : Tolerance) (change : IdChange) (c : String × String × SuppressionRule) : Warning :=
  ⟨c.1, c.2.1, c.2.2.pattern, successor? t c.1 change.added⟩

/-- The warnings about the rules that work for the removed ids. -/
def broken (t : Tolerance) (profiles : List Profile) (change : IdChange) : List Warning :=
  ((concerns profiles change).filter fun c => c.2.2.worksFor c.1).map (warning t change)

/-- Only rules that look at rule ids are asked. -/
theorem isIdMode_of_mem_idRules {e : String × SuppressionRule} (h : e ∈ idRules profiles) :
    e.2.mode.isIdMode := by
  unfold idRules at h
  obtain ⟨p, -, h⟩ := List.mem_flatMap.mp h
  obtain ⟨r, hr, rfl⟩ := List.mem_map.mp h
  exact (List.mem_filter.mp hr).2

theorem warning?_eq {e : String × SuppressionRule} (he : e ∈ idRules profiles)
    (hid : ¬ isBlankText id) (hlimit : ¬ e.2.isBeyondLimit) : warning? t change id e =
      .ok (if e.2.worksFor id || e.2.isMalformed && e.2.pattern == id then
        some (warning t change (id, e)) else none) := by
  unfold warning?
  rw [patternMatches_eq (isIdMode_of_mem_idRules he) hid hlimit]
  show (if _ then _ else _ : Except PatternLimit (Option Warning)) = _
  split <;> rfl

/-- If no pattern is beyond a limit, there are warnings about the rules that work for a removed id and
about those with a malformed pattern that is one. -/
theorem warnings_eq_ok (hremoved : ∀ id ∈ change.removed, ¬ isBlankText id)
    (hlimit : ∀ id ∈ change.removed, ∀ e ∈ idRules profiles, ¬ e.2.isBeyondLimit) :
    warnings t profiles change =
      .ok (((concerns profiles change).filter fun c =>
        c.2.2.worksFor c.1 || c.2.2.isMalformed && c.2.2.pattern == c.1).map (warning t change)) := by
  have hfound : (change.removed.mapM fun id => (idRules profiles).mapM fun e =>
      warning? t change id e) = .ok (change.removed.map fun id => (idRules profiles).map fun e =>
        if e.2.worksFor id || e.2.isMalformed && e.2.pattern == id then
          some (warning t change (id, e)) else none) :=
    mapM_eq_ok_map fun id hid => mapM_eq_ok_map fun e he =>
      warning?_eq he (hremoved id hid) (hlimit id hid e he)
  unfold warnings
  rw [hfound]
  show Except.ok _ = Except.ok _
  rw [concerns, List.product, List.filter_flatMap, List.map_flatMap, ← List.flatMap_def,
    List.filterMap_flatMap]
  refine congrArg Except.ok (List.flatMap_congr fun id _ => ?_)
  rw [List.filterMap_map, List.filter_map, List.map_map, ← List.filterMap_eq_map,
    List.filterMap_filter]
  exact List.filterMap_congr fun e _ => rfl

/-- If there are warnings at all, no pattern that is asked is beyond a limit. -/
theorem not_isBeyondLimit_of_warnings {ws : List Warning} (h : warnings t profiles change = .ok ws)
    (hid : id ∈ change.removed) {e : String × SuppressionRule} (he : e ∈ idRules profiles) :
    ¬ e.2.isBeyondLimit := by
  intro hlimit
  obtain ⟨found, hfound, -⟩ := bind_eq_ok.mp h
  obtain ⟨ys, hys⟩ := exists_mapM_eq_ok_iff.mp ⟨found, hfound⟩ id hid
  obtain ⟨y, hy⟩ := exists_mapM_eq_ok_iff.mp ⟨ys, hys⟩ e he
  obtain ⟨l, hl⟩ : ∃ l, patternMatches e.2.mode e.2.pattern id = .error l :=
    exists_patternMatches_eq_error hlimit
  rw [warning?, hl] at hy
  cases hy

/-- The warnings about a change are those about the rules that work for the removed ids, exactly if no
pattern is beyond a limit and no malformed one has the text of a removed id. -/
theorem warnings_eq_broken_iff (t : Tolerance) (profiles : List Profile)
    (hremoved : ∀ id ∈ change.removed, ¬ isBlankText id) :
    warnings t profiles change = .ok (broken t profiles change) ↔
      ∀ id ∈ change.removed, ∀ e ∈ idRules profiles,
        ¬ e.2.isBeyondLimit ∧ ¬ (e.2.isMalformed ∧ e.2.pattern = id) := by
  constructor
  · intro h
    have hlimit : ∀ id ∈ change.removed, ∀ e ∈ idRules profiles, ¬ e.2.isBeyondLimit :=
      fun id hid e he => not_isBeyondLimit_of_warnings h hid he
    rw [warnings_eq_ok hremoved hlimit] at h
    -- the warnings contain those about the rules that work, and there are no more of them
    have hsublist := List.monotone_filter_right (concerns profiles change)
      (p := fun c => c.2.2.worksFor c.1)
      (q := fun c => c.2.2.worksFor c.1 || c.2.2.isMalformed && c.2.2.pattern == c.1)
      fun c hc => by simp [hc]
    have hlength := congrArg List.length (Except.ok.inj h)
    rw [broken, List.length_map, List.length_map] at hlength
    have hfilter := hsublist.eq_of_length hlength.symm
    intro id hid e he
    refine ⟨hlimit id hid e he, fun ⟨hmalformed, hpattern⟩ => ?_⟩
    have hmem : (id, e) ∈ (concerns profiles change).filter fun c =>
        c.2.2.worksFor c.1 || c.2.2.isMalformed && c.2.2.pattern == c.1 :=
      List.mem_filter.mpr ⟨List.mem_product.mpr ⟨hid, he⟩, by simp [hmalformed, hpattern]⟩
    rw [← hfilter] at hmem
    have hworks := (List.mem_filter.mp hmem).2
    rw [SuppressionRule.worksFor_of_isMalformed hmalformed] at hworks
    cases hworks
  · intro h
    rw [warnings_eq_ok hremoved fun id hid e he => (h id hid e he).1, broken]
    refine congrArg (fun cs => Except.ok (cs.map (warning t change))) (List.filter_congr ?_)
    rintro ⟨id, e⟩ hc
    obtain ⟨hid, he⟩ := List.mem_product.mp hc
    have hother : ¬ (e.2.isMalformed && e.2.pattern == id) := by
      simpa using (h id hid e he).2
    simp [Bool.eq_false_iff.mpr hother]

/-- A profile with a rule for an exact id, one for all ids that begin in some way, and one for messages. -/
def legacy : Profile where
  name := "acme"
  rules := [{ mode := .idExact, pattern := "R.1" }, { mode := .idPattern, pattern := "R.*" },
    { mode := .textPattern, pattern := "R.1" }]

/-- A change that takes away two ids and brings a new one. -/
def renewal : IdChange where
  removed := ["Other", "R.1"]
  added := ["R.2"]
  retained := []

/-- Both rules for ids are broken by it, and both are told. -/
theorem warnings_about_legacy : (∀ id ∈ renewal.removed, ¬ isBlankText id) ∧
    warnings {} [legacy] renewal = .ok (broken {} [legacy] renewal) ∧
    (broken {} [legacy] renewal).map (fun w => (w.ruleId, w.profileName, w.pattern)) =
      [("R.1", "acme", "R.1"), ("R.1", "acme", "R.*")] := by
  have hremoved : ∀ id ∈ renewal.removed, ¬ isBlankText id := by decide
  exact ⟨hremoved, (warnings_eq_broken_iff {} [legacy] hremoved).mpr (by decide), rfl⟩

/-- A profile with one rule for ids by a pattern. -/
def patterned (pattern : String) : Profile where
  name := "acme"
  rules := [{ mode := .idPattern, pattern := pattern }]

/-- A malformed pattern with the text of a removed id gives a warning, although the rule never worked;
beside a pattern beyond a limit there is no warning about a rule that did. -/
theorem warnings_ne_broken :
    (broken {} [patterned "R(1"] ⟨["R(1"], [], []⟩ = [] ∧
      warnings {} [patterned "R(1"] ⟨["R(1"], [], []⟩ =
        .ok [⟨"R(1", "acme", "R(1", successor? {} "R(1" []⟩]) ∧
    (broken {} [patterned "R1", patterned "x\x7b99999999999\x7d"] ⟨["R1"], [], []⟩ =
        [⟨"R1", "acme", "R1", successor? {} "R1" []⟩] ∧
      warnings {} [patterned "R1", patterned "x\x7b99999999999\x7d"] ⟨["R1"], [], []⟩ =
        .error .repeatTooLarge) :=
  ⟨⟨rfl, rfl⟩, rfl, rfl⟩

end Impact

end Conformity

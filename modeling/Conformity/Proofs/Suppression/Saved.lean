import Conformity.Proofs.Profile.RoundTrip
import Conformity.Proofs.Suppression.Meaning

/-!
# Suppression after a profile was saved

The scope of a rule is trimmed on its way through a document, and blank types are lost. A rule made
ready is otherwise the same before and after (`Matcher.ofRules_map_saved`), so that it comes to the
scopes: some are kept, that is, limit a rule no less afterwards (`keepsScope_iff`), and where all
are kept a saved profile suppresses nothing new (`Profile.suppressed_of_saved`). A scope of blank
types only is not kept, for nothing is left of it and the rule then holds everywhere.
-/

namespace Conformity

open Text (trim isBlankText)

/-! ## Scopes -/

/-- A scope admits the types in play. -/
def Admits (scope active : List String) : Prop := scope = [] ∨ ∃ t ∈ scope, t ∈ active

/-- A scope still limits a rule after it was saved, and to types of its own: some type is not blank,
and each of those is there trimmed, too. -/
def KeepsScope (scope : List String) : Prop :=
  scope = [] ∨ (∃ t ∈ scope, ¬ isBlankText t) ∧ ∀ t ∈ scope, ¬ isBlankText t → trim t ∈ scope

/-- Nothing is left of a scope exactly if all its types are blank. -/
theorem savedScope_eq_nil_iff {scope : List String} :
    savedScope scope = [] ↔ ∀ t ∈ scope, isBlankText t := by
  rw [List.eq_nil_iff_forall_not_mem]
  constructor
  · intro h t ht
    by_contra hblank
    exact h (trim t) (mem_savedScope.mpr ⟨t, ht, hblank, rfl⟩)
  · intro h t ht
    obtain ⟨s, hs, hblank, -⟩ := mem_savedScope.mp ht
    exact hblank (h s hs)

/-- A saved scope admits nothing new exactly if the scope is kept. -/
theorem keepsScope_iff {scope : List String} :
    (∀ active, Admits (savedScope scope) active → Admits scope active) ↔ KeepsScope scope := by
  constructor
  · intro h
    by_cases hnil : scope = []
    · exact .inl hnil
    · refine .inr ⟨?_, fun t ht hblank => ?_⟩
      · -- where no types are in play, a scope of which nothing is left admits them
        by_contra hnone
        push Not at hnone
        rcases h [] (.inl (savedScope_eq_nil_iff.mpr hnone)) with hscope | ⟨t, -, ht⟩
        · exact hnil hscope
        · cases ht
      · have hsaved : trim t ∈ savedScope scope := mem_savedScope.mpr ⟨t, ht, hblank, rfl⟩
        rcases h [trim t] (.inr ⟨_, hsaved, List.mem_singleton_self _⟩) with hscope | ⟨s, hs, hmem⟩
        · exact absurd hscope hnil
        · rwa [← List.mem_singleton.mp hmem]
  · rintro (rfl | ⟨⟨s, hs, hblank⟩, hkept⟩) active hadmits
    · exact .inl rfl
    · rcases hadmits with hlost | ⟨t, ht, hactive⟩
      · exact absurd (savedScope_eq_nil_iff.mp hlost s hs) hblank
      · obtain ⟨u, hu, hfilled, rfl⟩ := mem_savedScope.mp ht
        exact .inr ⟨trim u, hkept u hu hfilled, hactive⟩

/-! ## Rules made ready -/

namespace Matcher

/-- A matcher of the rule as it comes back. -/
def saved (m : Matcher) : Matcher :=
  { m with scope := savedScope m.scope, description := savedText? m.description }

theorem inScope_iff_admits {m : Matcher} {active : List String} :
    m.inScope active ↔ Admits m.scope active := by
  simp [inScope, Admits]

theorem ofRule_saved (r : SuppressionRule) : ofRule r.saved = (ofRule r).map saved := by
  show (readPattern r.mode r.pattern).map _ = _
  unfold ofRule
  cases readPattern r.mode r.pattern <;> rfl

/-- Rules that were saved are made ready as before, but for scopes and descriptions. -/
theorem ofRules_map_saved (rs : List SuppressionRule) :
    ofRules (rs.map SuppressionRule.saved) =
      (ofRules rs).map fun ready => (ready.1.map saved, ready.2) := by
  induction rs with
  | nil => rfl
  | cons r rs ih =>
      rw [List.map_cons, ofRules, ofRules, ih, ofRule_saved]
      by_cases hblank : isBlankText r.pattern
      · rw [if_pos hblank, if_pos (show isBlankText r.saved.pattern from hblank)]
      · rw [if_neg hblank, if_neg (show ¬ isBlankText r.saved.pattern from hblank)]
        cases ofRule r with
        | ok m => cases ofRules rs <;> rfl
        | error e =>
            cases e with
            | malformed f => cases ofRules rs <;> rfl
            | limit l => rfl

end Matcher

/-! ## Findings -/

namespace Profile

/-- The findings that the rules of a profile suppress while some types are in play. -/
def suppressed (p : Profile) (active : List String) (findings : List Finding) :
    Except PatternLimit (List Finding) :=
  (Matcher.ofRules p.rules).map fun ready =>
    (Suppression.divide (ready.1.filter (·.inScope active)) (some p.name) findings).suppressed

variable {p : Profile}

/-- The scope of a matcher is that of its rule. -/
theorem exists_scope_of_mem {ready : List Matcher × List PatternFault}
    (h : Matcher.ofRules p.rules = .ok ready) {m : Matcher} (hm : m ∈ ready.1) :
    ∃ r ∈ p.rules, r.scope = m.scope := by
  have hlimits : p.WithinLimits := by
    by_contra hlimits
    obtain ⟨l, hl⟩ := exists_ofRules_eq_error hlimits
    cases hl.symm.trans h
  cases (ofRules_eq_ok hlimits).symm.trans h
  obtain ⟨r, hr, -, e, -, rfl⟩ := mem_matchers.mp hm
  exact ⟨r, hr, rfl⟩

/-- If all scopes are kept, what the saved rules suppress was suppressed before. -/
theorem suppressed_sublist {ms : List Matcher} (h : ∀ m ∈ ms, KeepsScope m.scope)
    (active : List String) (name : Option String) (findings : List Finding) :
    (Suppression.divide ((ms.map Matcher.saved).filter (·.inScope active)) name
      findings).suppressed.Sublist
        (Suppression.divide (ms.filter (·.inScope active)) name findings).suppressed := by
  unfold Suppression.divide
  rw [List.partition_eq_filter_filter, List.partition_eq_filter_filter]
  refine List.monotone_filter_right _ fun f hf => ?_
  obtain ⟨m', hm', haccepts⟩ := List.any_eq_true.mp hf
  obtain ⟨hmem, hscope⟩ := List.mem_filter.mp hm'
  obtain ⟨m, hm, rfl⟩ := List.mem_map.mp hmem
  -- the matcher that it comes from is in scope, too, and has the same pattern
  have hadmits : Admits m.scope active :=
    keepsScope_iff.mpr (h m hm) active (Matcher.inScope_iff_admits.mp hscope)
  have hold : m ∈ ms.filter (·.inScope active) :=
    List.mem_filter.mpr ⟨hm, Matcher.inScope_iff_admits.mpr hadmits⟩
  exact List.any_eq_true.mpr ⟨m, hold, haccepts⟩

/-- A profile and the profile that its record gives are refused alike for their patterns. A rule is
in scope for no more types in play than before exactly if its scope is kept, and if all scopes are
kept, then no more findings are suppressed. -/
theorem suppressed_of_saved (p : Profile) :
    ∃ q, ofRecord p.name p.record = .ok q ∧
      List.Forall₂ (fun r r' => (∀ active, Admits r'.scope active → Admits r.scope active) ↔
        KeepsScope r.scope) p.rules q.rules ∧
      ∀ active findings,
        (∃ l, p.suppressed active findings = .error l ∧ q.suppressed active findings = .error l) ∨
          ∃ before after, p.suppressed active findings = .ok before ∧
            q.suppressed active findings = .ok after ∧
            ((∀ r ∈ p.rules, KeepsScope r.scope) → after.Sublist before) := by
  refine ⟨p.saved, p.ofRecord_record, ?_, fun active findings => ?_⟩
  · show List.Forall₂ _ p.rules (p.rules.map SuppressionRule.saved)
    rw [List.forall₂_map_right_iff]
    exact List.forall₂_same.mpr fun r _ => keepsScope_iff
  · have hsaved : p.saved.suppressed active findings =
        ((Matcher.ofRules p.rules).map fun ready => (ready.1.map Matcher.saved, ready.2)).map
          fun ready => (Suppression.divide (ready.1.filter (·.inScope active)) (some p.name)
            findings).suppressed := by
      rw [← Matcher.ofRules_map_saved]
      rfl
    rw [hsaved, suppressed]
    cases hready : Matcher.ofRules p.rules with
    | error l => exact .inl ⟨l, rfl, rfl⟩
    | ok ready =>
        refine .inr ⟨_, _, rfl, rfl, fun h => suppressed_sublist (fun m hm => ?_) _ _ _⟩
        obtain ⟨r, hr, hscope⟩ := exists_scope_of_mem hready hm
        exact hscope ▸ h r hr

/-- A profile with a scoped rule; one of the types has a blank behind it. -/
def invoiced : Profile where
  name := "invoiced"
  rules := [⟨.idExact, "R1", ["INVOICE", "INVOICE "], none⟩, ⟨.idExact, "R2", [], none⟩]

def firstRule : Finding := { ruleId := some "R1", message := "wrong" }

def secondRule : Finding := { ruleId := some "R2", message := "wrong" }

theorem suppressed_of_saved_invoiced :
    ∃ q, ofRecord invoiced.name invoiced.record = .ok q ∧
      ∃ before after, invoiced.suppressed ["REPORT"] [firstRule, secondRule] = .ok before ∧
        q.suppressed ["REPORT"] [firstRule, secondRule] = .ok after ∧ before = [secondRule] ∧
        after.Sublist before := by
  have hkeeps : ∀ r ∈ invoiced.rules, KeepsScope r.scope := by
    simp only [invoiced, List.forall_mem_cons, List.not_mem_nil, false_implies, implies_true,
      and_true]
    exact ⟨.inr (by decide), .inl rfl⟩
  obtain ⟨s, hs, hsecond⟩ := exists_eq_ok_of_any (by decide +kernel :
    (invoiced.suppressed ["REPORT"] [firstRule, secondRule]).toOption.any fun s =>
      decide (s = [secondRule]))
  obtain ⟨q, hq, -, hruns⟩ := suppressed_of_saved invoiced
  refine ⟨q, hq, ?_⟩
  rcases hruns ["REPORT"] [firstRule, secondRule] with ⟨l, hl, -⟩ | ⟨before, after, hb, ha, hsub⟩
  · cases hs.symm.trans hl
  · obtain rfl : s = before := Except.ok.inj (hs.symm.trans hb)
    exact ⟨s, after, hb, ha, of_decide_eq_true hsecond, hsub hkeeps⟩

/-- A profile with a rule that is scoped to a blank type. -/
def blankScoped : Profile where
  name := "blank"
  rules := [⟨.idExact, "R1", [" "], none⟩]

/-- A rule that is scoped to a blank type is in scope for no types at first, and for all after it was
saved. -/
theorem suppresses_more_of_blankScoped :
    ∃ q, ofRecord blankScoped.name blankScoped.record = .ok q ∧
      blankScoped.suppressed ["INVOICE"] [firstRule] = .ok [] ∧
      q.suppressed ["INVOICE"] [firstRule] = .ok [firstRule] := by
  have hscope : savedScope [" "] = [] := savedScope_eq_nil_iff.mpr (by decide)
  have hsaved : blankScoped.saved.rules = [⟨.idExact, "R1", [], none⟩] := by
    show [SuppressionRule.mk _ _ (savedScope [" "]) _] = _
    rw [hscope]
    rfl
  obtain ⟨before, hbefore, hnone⟩ := exists_eq_ok_of_any (by decide +kernel :
    (blankScoped.suppressed ["INVOICE"] [firstRule]).toOption.any fun s => decide (s = []))
  obtain ⟨after, hafter, hfirst⟩ := exists_eq_ok_of_any (by decide +kernel :
    (suppressed { name := "blank", rules := [⟨.idExact, "R1", [], none⟩] } ["INVOICE"]
      [firstRule]).toOption.any fun s => decide (s = [firstRule]))
  refine ⟨blankScoped.saved, blankScoped.ofRecord_record, ?_, ?_⟩
  · rw [hbefore, of_decide_eq_true hnone]
  · unfold suppressed at hafter ⊢
    rw [hsaved]
    rw [of_decide_eq_true hfirst] at hafter
    exact hafter

end Profile

end Conformity

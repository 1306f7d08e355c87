import Conformity.Proofs.Profile.Resolver
import Conformity.Proofs.Suppression.Meaning

/-!
# Asking for more suppresses no less

A request asks for more than another one if its profile inherits from the other's, directly or through
others, and if it has the other's directives and types in play. Every rule that suppressed something
then still does (`IsSuppressed.mono`): inherited rules are rules like all others, whatever stands
beside them. So no finding comes back, and no text (`Suppression.apply_mono`). A blank name stands for
no profile, even if there is one with this name.
-/

namespace Conformity

open Text (isBlankText)

/-- With more types in play, a rule suppresses what it did. -/
theorem SuppressionRule.Suppresses.mono {r : SuppressionRule} {f : Finding} {A B : List String}
    (h : r.Suppresses A f) (hactive : A ⊆ B) : r.Suppresses B f where
  notBlank := h.notBlank
  inScope := h.inScope.imp_right fun ⟨t, ht, hA⟩ => ⟨t, ht, hactive hA⟩
  hits := h.hits

namespace Suppression

variable {d : ProfilesDocument} {declared : Table Profile} {s : Snapshot} {r r' : Request} {f : Finding}

theorem Request.resolves_some {name : String} {D : List (Option String)} {A : List String}
    {p : Profile} : Request.Resolves declared ⟨some name, D, A⟩ p ↔
      ¬ isBlankText name ∧ Settles declared name (.ok p) := by
  simp [Request.Resolves]

/-- A request with no fewer rules, directives and types suppresses no less. -/
theorem IsSuppressed.mono
    (hrules : ∀ p, r.Resolves declared p → ∃ p', r'.Resolves declared p' ∧ p.rules ⊆ p'.rules)
    (hadHoc : r.adHoc ⊆ r'.adHoc) (hactive : r.active ⊆ r'.active)
    (h : IsSuppressed declared r f) : IsSuppressed declared r' f := by
  cases h with
  | rule hp hrule hsuppresses =>
      obtain ⟨p', hp', hsubset⟩ := hrules _ hp
      exact .rule hp' (hsubset hrule) (hsuppresses.mono hactive)
  | directive hdirective hsuppresses => exact .directive (hadHoc hdirective) hsuppresses

/-- A request is served by filtering, findings as well as texts. -/
theorem ServesAll.exists_hit (hserves : ServesAll d.profiles s)
    (h : ∀ directive, some directive ∈ r.adHoc → ∀ l, AdHoc.matcher? directive ≠ .error l) :
    ∃ hit : Finding → Bool, (∀ f, hit f ↔ IsSuppressed d.profiles r f) ∧
      (∀ findings, ∃ parts, apply s.matchersOf r findings = .ok parts ∧
        parts.suppressed = findings.filter hit) ∧
      ∀ texts, applyTexts s.matchersOf r texts = .ok (texts.filter fun t => !hit (.ofText t)) := by
  obtain ⟨rules, hgather, hrules⟩ := hserves.exists_gather h
  refine ⟨fun f => rules.any (·.accepts f), hrules, fun findings => ?_, fun texts => ?_⟩
  · unfold apply
    rw [hgather]
    cases findings with
    | nil => exact ⟨_, rfl, rfl⟩
    | cons f fs =>
        refine ⟨divide rules r.profileName (f :: fs), rfl, ?_⟩
        rw [divide, List.partition_eq_filter_filter]
  · unfold applyTexts
    rw [hgather]
    cases texts with
    | nil => rfl
    | cons t ts => exact congrArg Except.ok (keepTexts_eq_filter rules (t :: ts))

/-- Where a request suppresses no less than another one, what the other suppresses stays suppressed,
and what it keeps of texts comprises what is kept. -/
theorem sublist_of_hits {hit hit' : Finding → Bool} (h : ∀ f, hit f → hit' f)
    (findings : List Finding) (texts : List String) :
    (findings.filter hit).Sublist (findings.filter hit') ∧
      (texts.filter fun t => !hit' (.ofText t)).Sublist (texts.filter fun t => !hit (.ofText t)) := by
  refine ⟨List.monotone_filter_right _ h, List.monotone_filter_right _ fun t ht => ?_⟩
  cases hhit : hit (.ofText t) with
  | false => rfl
  | true => simp [h _ hhit] at ht

/-- A request for a profile suppresses what a request for a profile above it does, if it has the other
request's directives and types, and asks for a profile at all where the other one does. -/
theorem apply_mono {a c : String} {p : Profile} {ns : List String} {D E : List (Option String)}
    {A B : List String} (hproper : AllProper d.profiles)
    (hprofiles : ∀ name p, Settles d.profiles name (.ok p) → p.WithinLimits)
    (hresolves : Settles d.profiles c (.ok p)) (hascent : Ascent d.profiles c ns) (ha : a ∈ ns)
    (hblank : isBlankText c → isBlankText a) (hadHoc : D ⊆ E) (hactive : A ⊆ B)
    (hdirectives : ∀ directive, some directive ∈ E → ∀ l, AdHoc.matcher? directive ≠ .error l) :
    ∃ s told, Snapshot.ofDocument d = .ok (s, told) ∧
      (∀ findings, ∃ before after, apply s.matchersOf ⟨some a, D, A⟩ findings = .ok before ∧
        apply s.matchersOf ⟨some c, E, B⟩ findings = .ok after ∧
        before.suppressed.Sublist after.suppressed) ∧
      ∀ texts, ∃ kept kept', applyTexts s.matchersOf ⟨some a, D, A⟩ texts = .ok kept ∧
        applyTexts s.matchersOf ⟨some c, E, B⟩ texts = .ok kept' ∧ kept'.Sublist kept := by
  obtain ⟨s, told, hdocument, hserves⟩ := exists_ofDocument hproper hprofiles
  obtain ⟨hit, hmeans, hbefore, hkept⟩ := hserves.exists_hit (r := ⟨some a, D, A⟩)
    fun directive h => hdirectives directive (hadHoc h)
  obtain ⟨hit', hmeans', hafter, hkept'⟩ := hserves.exists_hit (r := ⟨some c, E, B⟩) hdirectives
  have hrules : ∀ q, Request.Resolves d.profiles ⟨some a, D, A⟩ q →
      ∃ q', Request.Resolves d.profiles ⟨some c, E, B⟩ q' ∧ q.rules ⊆ q'.rules := by
    intro q hq
    obtain ⟨hname, hq⟩ := Request.resolves_some.mp hq
    -- the profile above hands its rules down, and what it resolves to is `q`
    obtain ⟨q', hq', hprefix⟩ := hresolves.exists_of_mem hproper hascent ha
    cases hq.unique hq'
    exact ⟨p, Request.resolves_some.mpr ⟨fun h => hname (hblank h), hresolves⟩, hprefix.subset⟩
  have hhits : ∀ f, hit f → hit' f := fun f h =>
    (hmeans' f).mpr (((hmeans f).mp h).mono hrules hadHoc hactive)
  refine ⟨s, told, hdocument, fun findings => ?_, fun texts => ?_⟩
  · obtain ⟨before, hbefore, hsuppressed⟩ := hbefore findings
    obtain ⟨after, hafter, hsuppressed'⟩ := hafter findings
    refine ⟨before, after, hbefore, hafter, ?_⟩
    rw [hsuppressed, hsuppressed']
    exact (sublist_of_hits hhits findings []).1
  · exact ⟨_, _, hkept texts, hkept' texts, (sublist_of_hits hhits [] texts).2⟩

/-- A malformed rule and one that was out of scope do not disturb the inherited one. -/
theorem apply_mono_of_family : ∃ s told before after, Snapshot.ofDocument family = .ok (s, told) ∧
    apply s.matchersOf ⟨some "base", [], []⟩ given = .ok before ∧
    apply s.matchersOf forInvoice given = .ok after ∧
    before.suppressed = [exactRule, exactRule] ∧ before.suppressed.Sublist after.suppressed := by
  have hproper : AllProper family.profiles := by
    unfold AllProper Profile.IsProper
    decide
  obtain ⟨p, hp, -⟩ := exists_eq_ok_of_any
    (by decide +kernel : (Resolver.outcome family.profiles "p").toOption.any fun _ => true)
  have hascent : Ascent family.profiles "p" ["base", "p"] := .climb .start ⟨_, rfl, rfl⟩
  obtain ⟨s, told, hdocument, hfindings, -⟩ := apply_mono (a := "base") (D := []) (A := []) hproper
    (fun _ _ => withinLimits_family) ((Resolver.outcome_eq_iff hproper).mp hp) hascent
    List.mem_cons_self (by decide) (List.nil_subset forInvoice.adHoc)
    (List.nil_subset forInvoice.active) (AdHoc.ne_error_of_isOk (by decide +kernel))
  obtain ⟨before, after, hbefore, hafter, hsublist⟩ := hfindings given
  obtain ⟨x, hx, hparts⟩ := exists_eq_ok_of_any (by decide +kernel :
    (Snapshot.ofDocument family).toOption.any fun x =>
      (apply x.1.matchersOf ⟨some "base", [], []⟩ given).toOption.any fun parts =>
        decide (parts.suppressed = [exactRule, exactRule]))
  obtain rfl : x = (s, told) := Except.ok.inj (hx.symm.trans hdocument)
  rw [hbefore] at hparts
  exact ⟨s, told, before, after, hdocument, hbefore, hafter, of_decide_eq_true hparts, hsublist⟩

/-- A profile with a blank name, and the one that it extends. -/
def blankFamily : ProfilesDocument where
  profiles :=
    [("base", { name := "base", rules := [{ mode := .idExact, pattern := "R.1" }] }),
      (" ", { name := " ", parent := some "base" })]

/-- A profile with a blank name resolves, but a request for it is a request for no profile. -/
theorem suppresses_less_of_blank : ∃ p s told before after,
    Settles blankFamily.profiles " " (.ok p) ∧ Ascent blankFamily.profiles " " ["base", " "] ∧
    Snapshot.ofDocument blankFamily = .ok (s, told) ∧
    apply s.matchersOf ⟨some "base", [], []⟩ [exactRule] = .ok before ∧
    apply s.matchersOf ⟨some " ", [], []⟩ [exactRule] = .ok after ∧
    before.suppressed = [exactRule] ∧ after.suppressed = [] := by
  have hproper : AllProper blankFamily.profiles := by
    unfold AllProper Profile.IsProper
    decide
  obtain ⟨p, hp, -⟩ := exists_eq_ok_of_any
    (by decide +kernel : (Resolver.outcome blankFamily.profiles " ").toOption.any fun _ => true)
  obtain ⟨⟨s, told⟩, hdocument, happly⟩ := exists_eq_ok_of_any (by decide +kernel :
    (Snapshot.ofDocument blankFamily).toOption.any fun x =>
      ((apply x.1.matchersOf ⟨some "base", [], []⟩ [exactRule]).toOption.any fun parts =>
        decide (parts.suppressed = [exactRule])) &&
      (apply x.1.matchersOf ⟨some " ", [], []⟩ [exactRule]).toOption.any fun parts =>
        decide (parts.suppressed = []))
  obtain ⟨hbase, hblank⟩ := Bool.and_eq_true_iff.mp happly
  obtain ⟨before, hbefore, hsuppressed⟩ := exists_eq_ok_of_any hbase
  obtain ⟨after, hafter, hsuppressed'⟩ := exists_eq_ok_of_any hblank
  exact ⟨p, s, told, before, after, (Resolver.outcome_eq_iff hproper).mp hp,
    .climb .start ⟨_, rfl, rfl⟩, hdocument, hbefore, hafter, of_decide_eq_true hsuppressed,
    of_decide_eq_true hsuppressed'⟩

end Suppression

end Conformity

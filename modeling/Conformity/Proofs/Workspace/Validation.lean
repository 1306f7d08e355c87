import Conformity.Proofs.Profile.Document
import Conformity.Proofs.Table
import Conformity.Workspace.Validation

/-!
# Validations while profiles are reloaded

A validation looks at the snapshot of the profiles again and again: for the overrides of the schema,
for the suppression rules of the schema's errors, for the assertions of the rule-set, for the global
assertions, and for the suppression rules of the findings. In between the registry may publish other
snapshots. A `Validation` is cut where a snapshot is looked at; a schedule says when it goes on and
what is published meanwhile.

Where all that is looked at is as one snapshot has it, a validation ends as it does with this snapshot
alone (`Validation.ends_as_with_one_snapshot`). Nothing else holds the snapshot fast, so that a report
may be put together from two of them (`Validation.report_of_two_snapshots`).
-/

namespace Conformity

open Workspace

/-! ## What is looked at -/

namespace Suppression

theorem gather_congr {rulesOf rulesOf' : String → Option (List Matcher)} {r : Request}
    (h : ∀ name, r.profileName = some name → rulesOf name = rulesOf' name) :
    gather rulesOf r = gather rulesOf' r := by
  unfold gather
  cases hname : r.profileName with
  | none => rfl
  | some name =>
      dsimp only
      rw [h name hname]

theorem apply_congr {rulesOf rulesOf' : String → Option (List Matcher)} {r : Request}
    {findings : List Finding}
    (h : findings ≠ [] → ∀ name, r.profileName = some name → rulesOf name = rulesOf' name) :
    apply rulesOf r findings = apply rulesOf' r findings := by
  cases findings with
  | nil => rfl
  | cons f fs =>
      unfold apply
      rw [gather_congr (h (List.cons_ne_nil f fs))]

theorem applyTexts_congr {rulesOf rulesOf' : String → Option (List Matcher)} {r : Request}
    {texts : List String}
    (h : texts ≠ [] → ∀ name, r.profileName = some name → rulesOf name = rulesOf' name) :
    applyTexts rulesOf r texts = applyTexts rulesOf' r texts := by
  cases texts with
  | nil => rfl
  | cons s ss =>
      unfold applyTexts
      rw [gather_congr (h (List.cons_ne_nil s ss))]

end Suppression

theorem RuleSets.custom_congr {s : RuleSets} {globals : Assertions} {t : RuleSetType}
    (assertions : List Assertion) (profile : Option String)
    (h : ({ s with globals } : RuleSets).globalsFor t = s.globalsFor t) :
    ({ s with globals } : RuleSets).custom t assertions profile =
      s.custom t assertions profile := by
  unfold RuleSets.custom RuleSets.key
  rw [h]
  rfl

/-- The global assertions matter to a run with further assertions only, and only those for its
type. -/
theorem RuleSets.run_congr {s : RuleSets} {globals : Assertions} {r : RuleSets.Request}
    (h : r.assertions ≠ [] →
      ({ s with globals } : RuleSets).globalsFor r.type = s.globalsFor r.type) :
    ({ s with globals } : RuleSets).run r = s.run r := by
  unfold RuleSets.run
  dsimp only
  by_cases hempty : r.assertions.isEmpty = true
  · rw [if_pos hempty, if_pos hempty]
  · rw [if_neg hempty, if_neg hempty,
      RuleSets.custom_congr _ _ (h fun heq => hempty (List.isEmpty_iff.mpr heq))]

namespace Workspace

/-! ## The parts of a validation -/

/-- How far a validation has come. -/
inductive Phase where
  | begun
  /-- The overrides of the schema are known. -/
  | opened (type : SchemaType) (overrides : List Override)
  /-- The errors against the schema are known. -/
  | checked (errors : List String)
  /-- What is left of them is known, and how many are suppressed. -/
  | judged (left : List String) (suppressed : Nat)
  /-- The assertions for the rule-set are known. -/
  | prepared (left : List String) (suppressed : Nat) (assertions : List Assertion)
  /-- The findings of the rule-set are known. -/
  | ran (left : List String) (suppressed : Nat) (findings : List Finding)
  | ended (report : ValidationReport)

/-- How often a validation goes on before it ends, at most. -/
def Phase.left : Phase → Nat
  | .begun => 6
  | .opened .. => 5
  | .checked .. => 4
  | .judged .. => 3
  | .prepared .. => 2
  | .ran .. => 1
  | .ended .. => 0

/-- The run of the rule-set that a request asks for. -/
def Request.run (w : Workspace) (r : Request) (assertions : List Assertion) : RuleSets.Request :=
  { type := r.ruleSet, document := r.document, subtype := some (w.subtypeOf r), assertions
    profile := r.profile, base := r.place }

/-- Goes on with a validation. What is looked at of a snapshot is looked at in one piece. -/
def advance (w : Workspace) (r : Request) : Phase → Work Phase
  | .begun => do
    match r.schema with
    | none => return .judged [] 0
    | some t => return .opened t ((← get).snapshot.overridesFor r.profile t.name)
  | .opened t overrides => do
    return .checked (← w.onSchemas fun s => s.validate t r.document overrides r.profile)
  | .checked errors => do
    let left ← withinLimits
      (Suppression.applyTexts (← get).snapshot.matchersOf r.suppression errors)
    return .judged left (errors.length - left.length)
  | .judged left suppressed => do
    return .prepared left suppressed
      ((← get).snapshot.assertionsFor r.profile r.ruleSet.name)
  | .prepared left suppressed assertions => do
    return .ran left suppressed (← w.onRuleSets fun s => s.run (r.run w assertions))
  | .ran left suppressed findings => do
    return .ended { ruleSet := r.ruleSet, schema := r.schema, profileName := r.profile
                    schemaErrors := left, suppressedSchemaErrors := suppressed
                    findings := ← suppress r.suppression findings }
  | .ended report => return .ended report

/-- Makes the report, given how to come by the findings. -/
def conclude (r : Request) (left : List String) (suppressed : Nat)
    (findings : Work (List Finding)) : Work ValidationReport := do
  let findings ← suppress r.suppression (← findings)
  return { ruleSet := r.ruleSet, schema := r.schema, profileName := r.profile
           schemaErrors := left, suppressedSchemaErrors := suppressed, findings }

/-- What is left of a validation. -/
def remaining (w : Workspace) (r : Request) : Phase → Work ValidationReport
  | .begun => w.validate r
  | .opened t overrides => do
    let errors ← w.onSchemas fun s => s.validate t r.document overrides r.profile
    let left ← withinLimits
      (Suppression.applyTexts (← get).snapshot.matchersOf r.suppression errors)
    conclude r left (errors.length - left.length) (w.findings r)
  | .checked errors => do
    let left ← withinLimits
      (Suppression.applyTexts (← get).snapshot.matchersOf r.suppression errors)
    conclude r left (errors.length - left.length) (w.findings r)
  | .judged left suppressed => conclude r left suppressed (w.findings r)
  | .prepared left suppressed assertions =>
    conclude r left suppressed (w.onRuleSets fun s => s.run (r.run w assertions))
  | .ran left suppressed findings => conclude r left suppressed (pure findings)
  | .ended report => return report

variable {w : Workspace} {r : Request}

/-- What is left of a validation is to go on with it, and what is left then. -/
theorem remaining_eq (p : Phase) : w.remaining r p = w.advance r p >>= w.remaining r := by
  cases p with
  | begun =>
      cases hs : r.schema with
      | none => simp [remaining, advance, validate, schemaErrors, conclude, hs]
      | some t => simp [remaining, advance, validate, schemaErrors, conclude, hs]
  | opened t overrides => simp [remaining, advance]
  | checked errors => simp [remaining, advance]
  | judged left suppressed => simp [remaining, advance, conclude, findings, Request.run]
  | prepared left suppressed assertions => simp [remaining, advance, conclude]
  | ran left suppressed findings => simp [remaining, advance, conclude]
  | ended report => simp [remaining, advance]

theorem exists_of_resultOf_map {α β : Type} {x : Work α} {f : α → β} {st : WorkspaceState} {b : β}
    (h : (resultOf (do return f (← x)) st).1 = .ok b) : ∃ a, b = f a := by
  obtain ⟨a, st', -, hb⟩ := resultOf_bind_eq_ok (Prod.ext h rfl)
  cases hb
  exact ⟨a, rfl⟩

/-- A validation that goes on comes closer to its end. -/
theorem left_advance {p p' : Phase} {st : WorkspaceState}
    (h : (resultOf (w.advance r p) st).1 = .ok p') : p'.left ≤ p.left - 1 := by
  cases p with
  | begun =>
      unfold advance at h
      cases hs : r.schema with
      | none =>
          rw [hs] at h
          cases h
          decide
      | some t =>
          rw [hs] at h
          obtain ⟨_, rfl⟩ := exists_of_resultOf_map h
          exact Nat.le_refl 5
  | opened t overrides =>
      obtain ⟨_, rfl⟩ := exists_of_resultOf_map h
      exact Nat.le_refl 4
  | checked errors =>
      obtain ⟨left, _, -, h⟩ := resultOf_bind_eq_ok (Prod.ext h rfl)
      obtain ⟨_, rfl⟩ := exists_of_resultOf_map (congrArg Prod.fst h)
      exact Nat.le_refl 3
  | judged left suppressed =>
      obtain ⟨_, rfl⟩ := exists_of_resultOf_map h
      exact Nat.le_refl 2
  | prepared left suppressed assertions =>
      obtain ⟨_, rfl⟩ := exists_of_resultOf_map h
      exact Nat.le_refl 1
  | ran left suppressed findings =>
      obtain ⟨_, rfl⟩ := exists_of_resultOf_map h
      exact Nat.le_refl 0
  | ended report =>
      cases h
      exact Nat.le_refl 0

/-! ## Snapshots that agree -/

/-- Two snapshots agree on what a validation looks at when it goes on. -/
def Phase.Agrees (r : Request) (s s' : Snapshot) : Phase → Prop
  | .begun => ∀ t, r.schema = some t →
      s.overridesFor r.profile t.name = s'.overridesFor r.profile t.name
  | .checked errors => errors ≠ [] → ∀ name, r.profile = some name →
      s.matchersOf name = s'.matchersOf name
  | .judged .. =>
      s.assertionsFor r.profile r.ruleSet.name = s'.assertionsFor r.profile r.ruleSet.name
  | .prepared _ _ assertions => assertions ≠ [] →
      s.globalsFor r.ruleSet.name = s'.globalsFor r.ruleSet.name
  | .ran _ _ findings => findings ≠ [] → ∀ name, r.profile = some name →
      s.matchersOf name = s'.matchersOf name
  | .opened .. | .ended _ => True

/-- Two snapshots serve a request alike. -/
structure Request.ServedAlike (r : Request) (s s' : Snapshot) : Prop where
  overrides : ∀ t, r.schema = some t →
    s.overridesFor r.profile t.name = s'.overridesFor r.profile t.name
  matchers : ∀ name, r.profile = some name → s.matchersOf name = s'.matchersOf name
  assertions : s.assertionsFor r.profile r.ruleSet.name = s'.assertionsFor r.profile r.ruleSet.name
  globals : s.globalsFor r.ruleSet.name = s'.globalsFor r.ruleSet.name

theorem Request.ServedAlike.refl (r : Request) (s : Snapshot) : r.ServedAlike s s :=
  ⟨fun _ _ => rfl, fun _ _ => rfl, rfl, rfl⟩

theorem Request.ServedAlike.agrees {s s' : Snapshot} (h : r.ServedAlike s s') (p : Phase) :
    p.Agrees r s s' := by
  cases p with
  | begun => exact h.overrides
  | opened t overrides => trivial
  | checked errors => exact fun _ => h.matchers
  | judged left suppressed => exact h.assertions
  | prepared left suppressed assertions => exact fun _ => h.globals
  | ran left suppressed findings => exact fun _ => h.matchers
  | ended report => trivial

/-- Work comes to the same while another snapshot is in force, and changes neither. -/
def Disregards {α : Type} (s : Snapshot) (st : WorkspaceState) (x : Work α) : Prop :=
  resultOf x { st with snapshot := s } =
    ((resultOf x st).1, { (resultOf x st).2 with snapshot := s })

namespace Disregards

variable {α β : Type} {s : Snapshot} {st : WorkspaceState}

theorem bind {x : Work α} {f : α → Work β} (hx : Disregards s st x)
    (hf : ∀ a st', Disregards s st' (f a)) : Disregards s st (x >>= f) := by
  unfold Disregards at hx ⊢
  rw [resultOf_bind, resultOf_bind, hx]
  rcases resultOf x st with ⟨_ | a, st'⟩
  · rfl
  · exact hf a st'

theorem pure (a : α) : Disregards s st (Pure.pure a) := rfl

theorem withinLimits (x : Except PatternLimit α) : Disregards s st (withinLimits x) := by
  cases x <;> rfl

theorem onSchemas (a : Schemas → Schemas.Work α) : Disregards s st (w.onSchemas a) := rfl

/-- Rule-sets see the global assertions only. -/
theorem onRuleSets {a : RuleSets → RuleSets.Work α}
    (h : a (w.ruleSets s) = a (w.ruleSets st.snapshot)) : Disregards s st (w.onRuleSets a) := by
  show resultOf (ruleSlot.lift (a (w.ruleSets s))) { st with snapshot := s } = _
  rw [h]
  rfl

/-- What is made of a snapshot is made of another one likewise. -/
theorem ofSnapshot {f : Snapshot → Work α} (h : f s = f st.snapshot)
    (hf : Disregards s st (f st.snapshot)) :
    Disregards s st (do f (← get).snapshot) := by
  show resultOf (f s) { st with snapshot := s } = _
  rw [h]
  exact hf

end Disregards

/-- A validation goes on in the same way under a snapshot that agrees with the one in force. -/
theorem disregards_advance {s : Snapshot} {st : WorkspaceState} {p : Phase}
    (h : p.Agrees r st.snapshot s) : Disregards s st (w.advance r p) := by
  cases p with
  | begun =>
      unfold advance
      cases hs : r.schema with
      | none => exact .pure _
      | some t =>
          refine .ofSnapshot
            (f := fun s => pure (Phase.opened t (s.overridesFor r.profile t.name))) ?_ (.pure _)
          rw [h t hs]
  | opened t overrides => exact .bind (.onSchemas _) fun _ _ => .pure _
  | checked errors =>
      refine .ofSnapshot (f := fun s => do
        let left ← Workspace.withinLimits (Suppression.applyTexts s.matchersOf r.suppression errors)
        return Phase.judged left (errors.length - left.length)) ?_
        (.bind (.withinLimits _) fun _ _ => .pure _)
      have hsame : Suppression.applyTexts s.matchersOf r.suppression errors =
          Suppression.applyTexts st.snapshot.matchersOf r.suppression errors :=
        Suppression.applyTexts_congr fun hne name hname => (h hne name hname).symm
      rw [hsame]
  | judged left suppressed =>
      refine .ofSnapshot (f := fun s => pure (Phase.prepared left suppressed
        (s.assertionsFor r.profile r.ruleSet.name))) ?_ (.pure _)
      rw [h]
  | prepared left suppressed assertions =>
      refine .bind (.onRuleSets ?_) fun _ _ => .pure _
      show (({ w.ruleSets st.snapshot with globals := s.globals } : RuleSets).run _) = _
      exact RuleSets.run_congr fun hne => (h hne).symm
  | ran left suppressed findings =>
      refine .ofSnapshot (f := fun s => do
        let parts ← Workspace.withinLimits (Suppression.apply s.matchersOf r.suppression findings)
        return Phase.ended { ruleSet := r.ruleSet, schema := r.schema, profileName := r.profile
                             schemaErrors := left, suppressedSchemaErrors := suppressed
                             findings := parts }) ?_
        (.bind (.withinLimits _) fun _ _ => .pure _)
      have hsame : Suppression.apply s.matchersOf r.suppression findings =
          Suppression.apply st.snapshot.matchersOf r.suppression findings :=
        Suppression.apply_congr fun hne name hname => (h hne name hname).symm
      rw [hsame]
  | ended report => exact .pure _

end Workspace

/-! ## Validations among reloads -/

/-- A validation under way: how far it has come, unless it has failed, and the workspace as it
is. -/
structure Validation where
  phase : Except Failure Phase
  state : WorkspaceState

/-- What happens while a validation is under way. -/
inductive ValidationEvent where
  /-- The validation goes on. -/
  | advance
  /-- The registry publishes a snapshot. -/
  | publish (snapshot : Snapshot)

namespace Validation

/-- A validation that begins. -/
def start (st : WorkspaceState) : Validation := ⟨.ok .begun, st⟩

/-- One thing happens. -/
def next (w : Workspace) (r : Request) : ValidationEvent → Validation → Validation
  | .publish s, v => { v with state := { v.state with snapshot := s } }
  | .advance, v =>
    match v.phase with
    | .ok p => ⟨(resultOf (w.advance r p) v.state).1, (resultOf (w.advance r p) v.state).2⟩
    | .error _ => v

/-- What happens in a schedule happens. -/
def run (w : Workspace) (r : Request) : List ValidationEvent → Validation → Validation
  | [], v => v
  | e :: es, v => run w r es (v.next w r e)

/-- The snapshots that are in force at some time. -/
def inForce (s : Snapshot) : List ValidationEvent → List Snapshot
  | [] => [s]
  | .advance :: es => inForce s es
  | .publish s' :: es => s :: inForce s' es

/-- The report of a validation that has ended with one. -/
def report? (v : Validation) : Option ValidationReport :=
  match v.phase with
  | .ok (.ended report) => some report
  | _ => none

/-- A validation has a report, or it has failed. -/
inductive HasEnded : Validation → Prop
  | report (report : ValidationReport) (st : WorkspaceState) : HasEnded ⟨.ok (.ended report), st⟩
  | failure (f : Failure) (st : WorkspaceState) : HasEnded ⟨.error f, st⟩

/-- How often a validation goes on in a schedule. -/
def advances : List ValidationEvent → Nat
  | [] => 0
  | .advance :: es => advances es + 1
  | .publish _ :: es => advances es

/-- All that a validation looks at, as a schedule goes by, is as a snapshot has it. -/
def Sees (w : Workspace) (r : Request) (s : Snapshot) :
    List ValidationEvent → Validation → Prop
  | [], _ => True
  | .publish s' :: es, v => Sees w r s es (v.next w r (.publish s'))
  | .advance :: es, v =>
    (∀ p, v.phase = .ok p → p.Agrees r v.state.snapshot s) ∧ Sees w r s es (v.next w r .advance)

variable {w : Workspace} {r : Request} {s : Snapshot} {v : Validation} {es : List ValidationEvent}

/-- To reload the registry is to publish a snapshot, perhaps the old one. -/
theorem exists_publish_eq_reload (w : Workspace) (r : Request) (v : Validation) :
    ∃ s, (resultOf (w.onProfiles Registry.reload) v.state).2 = (v.next w r (.publish s)).state := by
  have hreload : (resultOf (w.onProfiles Registry.reload) v.state).2 =
      registrySlot.put (resultOf (Registry.reload w.store) (registrySlot.get v.state)).2 v.state :=
    rfl
  rw [hreload, Registry.resultOf_reload]
  unfold Registry.reloaded
  split
  · exact ⟨v.state.snapshot, rfl⟩
  · next d _ =>
    rcases Snapshot.ofDocument d with _ | ⟨snapshot, faults⟩
    · exact ⟨v.state.snapshot, rfl⟩
    · exact ⟨snapshot, rfl⟩

/-- A validation that goes on leaves the snapshot in force. -/
theorem snapshot_advance : (v.next w r .advance).state.snapshot = v.state.snapshot := by
  rcases v with ⟨_ | p, st⟩
  · rfl
  · have hsame : Disregards st.snapshot st (w.advance r p) :=
      disregards_advance ((Request.ServedAlike.refl r st.snapshot).agrees p)
    exact congrArg (·.2.snapshot) hsame

theorem mem_inForce (s : Snapshot) (es : List ValidationEvent) : s ∈ inForce s es := by
  induction es with
  | nil => exact List.mem_singleton_self s
  | cons e es ih =>
      cases e with
      | advance => exact ih
      | publish s' => exact List.mem_cons_self

/-- Where all snapshots in force serve the request alike, the validation sees one snapshot. -/
theorem sees_of_servedAlike
    (h : ∀ s' ∈ inForce v.state.snapshot es, r.ServedAlike s' s) : Sees w r s es v := by
  induction es generalizing v with
  | nil => trivial
  | cons e es ih =>
      cases e with
      | publish s' => exact ih fun s'' hs'' => h s'' (List.mem_cons_of_mem _ hs'')
      | advance =>
          refine ⟨fun p _ => (h _ (mem_inForce _ _)).agrees p, ih ?_⟩
          rwa [snapshot_advance]

/-! ### How a validation ends -/

/-- What comes of a validation if from now on there is one snapshot only. -/
def outcome (w : Workspace) (r : Request) (s : Snapshot) (v : Validation) :
    Except Failure ValidationReport × WorkspaceState :=
  match v.phase with
  | .ok p => resultOf (w.remaining r p) { v.state with snapshot := s }
  | .error f => (.error f, { v.state with snapshot := s })

/-- A validation that goes on ends as before if it looks at what the snapshot has. -/
theorem outcome_advance (h : ∀ p, v.phase = .ok p → p.Agrees r v.state.snapshot s) :
    (v.next w r .advance).outcome w r s = v.outcome w r s := by
  rcases v with ⟨_ | p, st⟩
  · rfl
  · show outcome w r s ⟨(resultOf (w.advance r p) st).1, (resultOf (w.advance r p) st).2⟩ =
      resultOf (w.remaining r p) { st with snapshot := s }
    have hsame : Disregards s st (w.advance r p) := disregards_advance (h p rfl)
    unfold Disregards at hsame
    rw [remaining_eq, resultOf_bind, hsame]
    rcases resultOf (w.advance r p) st with ⟨_ | p', st'⟩ <;> rfl

theorem outcome_run (h : Sees w r s es v) : (v.run w r es).outcome w r s = v.outcome w r s := by
  induction es generalizing v with
  | nil => rfl
  | cons e es ih =>
      cases e with
      | publish s' =>
          -- the snapshot of the moment does not matter to the outcome
          exact ih h
      | advance => exact (ih h.2).trans (outcome_advance h.1)

theorem outcome_of_hasEnded (h : v.HasEnded) :
    v.phase = (v.outcome w r s).1.map Phase.ended ∧
      { v.state with snapshot := s } = (v.outcome w r s).2 := by
  cases h with
  | report report st => exact ⟨rfl, rfl⟩
  | failure f st => exact ⟨rfl, rfl⟩

/-- How often a validation goes on before it ends, at most. -/
def left (v : Validation) : Nat :=
  match v.phase with
  | .ok p => p.left
  | .error _ => 0

theorem hasEnded_of_left_eq_zero (h : v.left = 0) : v.HasEnded := by
  rcases v with ⟨f | p, st⟩
  · exact .failure f st
  · cases p with
    | ended report => exact .report report st
    | _ => cases h

theorem left_advance_le : (v.next w r .advance).left ≤ v.left - 1 := by
  rcases v with ⟨f | p, st⟩
  · exact Nat.le_refl 0
  · show left ⟨(resultOf (w.advance r p) st).1, _⟩ ≤ p.left - 1
    cases h : (resultOf (w.advance r p) st).1 with
    | error f => exact Nat.zero_le _
    | ok p' => exact left_advance h

theorem left_run_le : (v.run w r es).left ≤ v.left - advances es := by
  induction es generalizing v with
  | nil => exact Nat.le_refl _
  | cons e es ih =>
      cases e with
      | publish s' => exact ih
      | advance =>
          have hrest : ((v.next w r .advance).run w r es).left ≤ _ := ih
          have hfirst : (v.next w r .advance).left ≤ v.left - 1 := left_advance_le
          show ((v.next w r .advance).run w r es).left ≤ v.left - (advances es + 1)
          omega

/-- A validation ends, whatever is published meanwhile, and if all that it looks at is as one snapshot
has it, it ends as it does with this snapshot alone: with the same report or the same failure, and with
the same files, caches and log. -/
theorem ends_as_with_one_snapshot (w : Workspace) (r : Request) (st : WorkspaceState)
    (es : List ValidationEvent) :
    (6 ≤ advances es → ((start st).run w r es).HasEnded) ∧
      (((start st).run w r es).HasEnded → ∀ s, (start st).Sees w r s es →
        ((start st).run w r es).phase =
            (resultOf (w.validate r) { st with snapshot := s }).1.map Phase.ended ∧
          { ((start st).run w r es).state with snapshot := s } =
            (resultOf (w.validate r) { st with snapshot := s }).2) := by
  constructor
  · intro hadvances
    have hleft : ((start st).run w r es).left ≤ 6 - advances es := left_run_le
    exact hasEnded_of_left_eq_zero (by omega)
  · intro hended s hsees
    have houtcome : ((start st).run w r es).outcome w r s =
        resultOf (w.validate r) { st with snapshot := s } := outcome_run hsees
    rw [← houtcome]
    exact outcome_of_hasEnded hended

/-! ### Two snapshots of a profile -/

/-- A schema with one reference. -/
def strict : Bytes :=
  bytesOf "<schema xmlns=\"http://www.w3.org/2001/XMLSchema\"><element ref=\"Note\"/></schema>"

/-- A workspace with one schema, whose engine misses a note if the schema is as it was written. -/
def withOneSchema : Workspace where
  storage := { root := ["assets"] }
  config := { schemas := [(.invoice, "invoice.xsd")] }
  engine :=
    { pass := fun _ _ document => .ok document
      compile := fun content => .ok ⟨content⟩
      apply := fun _ _ _ => .ok (bytesOf "<output/>")
      compileSchema := fun content => .ok ⟨content⟩
      validate := fun schema _ => if schema.source = strict then ["no note"] else [] }
  present := { here := "now", universal := "now" }

/-- The snapshot of a document with one profile. -/
def snapshotOf (p : Profile) : Snapshot :=
  match Snapshot.ofDocument { profiles := [(p.name, p)] } with
  | .ok (s, _) => s
  | .error _ => {}

/-- The profile suppresses that a note is missing. -/
def suppressing : Snapshot :=
  snapshotOf { name := "p", rules := [{ mode := .textPattern, pattern := "no note" }] }

/-- The profile lets a note be missing. -/
def overriding : Snapshot :=
  snapshotOf
    { name := "p", overrides := [("INVOICE", [{ element := "Note", minOccurs := some "0" }])] }

/-- What is asked for. -/
def noNote : Request where
  document := []
  ruleSet := .ubltrMain
  schema := some .invoice
  profile := some "p"

/-- A workspace that has been loaded. -/
def loaded : WorkspaceState :=
  { Workspace.start
      { nodes := [(["assets"], .folder), (["assets", "invoice.xsd"], .file strict)] } with
    snapshot := suppressing
    schemas := [(.invoice, ⟨strict⟩)]
    ruleSets := [(.ubltrMain, ⟨"UBLTR_MAIN", ⟨[]⟩, [], []⟩)] }

/-- Once the schema's errors are known, another snapshot is published. -/
def meanwhile (s : Snapshot) : List ValidationEvent :=
  [.advance, .advance, .publish s, .advance, .advance, .advance, .advance]

/-- A snapshot with one more profile. -/
def withProfile (p : Profile) (s : Snapshot) : Snapshot :=
  { s with profiles := (p.name, p) :: s.profiles, matchers := (p.name, []) :: s.matchers }

theorem servedAlike_withProfile {p : Profile} (h : r.profile ≠ some p.name) (s : Snapshot) :
    r.ServedAlike (withProfile p s) s := by
  have hprofile : (withProfile p s).profile? r.profile = s.profile? r.profile := by
    unfold Snapshot.profile?
    cases hname : r.profile with
    | none => rfl
    | some name =>
        have hne : p.name ≠ name := fun heq => h (by rw [hname, heq])
        have hget : (withProfile p s).profiles.get? name = s.profiles.get? name :=
          (Table.get?_cons _ _ _).trans (if_neg hne)
        rw [Option.filter_some]
        split
        · exact hget
        · rfl
  refine ⟨fun t _ => ?_, fun name hname => ?_, ?_, rfl⟩
  · unfold Snapshot.overridesFor
    rw [hprofile]
  · have hne : p.name ≠ name := fun heq => h (by rw [hname, heq])
    exact (Table.get?_cons _ _ _).trans (if_neg hne)
  · unfold Snapshot.assertionsFor
    rw [hprofile]

/-- A profile that is not asked for is added meanwhile. -/
def addition : List ValidationEvent := meanwhile (withProfile { name := "q" } suppressing)

theorem ends_as_with_one_snapshot_of_addition :
    6 ≤ advances addition ∧ ((start loaded).run withOneSchema noNote addition).HasEnded ∧
      (start loaded).Sees withOneSchema noNote suppressing addition ∧
      ((start loaded).run withOneSchema noNote addition).phase =
        (resultOf (withOneSchema.validate noNote) { loaded with snapshot := suppressing }).1.map
          Phase.ended := by
  have hadvances : 6 ≤ advances addition := by decide
  obtain ⟨hends, hsame⟩ := ends_as_with_one_snapshot withOneSchema noNote loaded addition
  have hsees : (start loaded).Sees withOneSchema noNote suppressing addition := by
    refine sees_of_servedAlike fun s hs => ?_
    simp only [addition, meanwhile, inForce, List.mem_cons, List.not_mem_nil, or_false] at hs
    rcases hs with rfl | rfl
    · exact Request.ServedAlike.refl noNote suppressing
    · exact servedAlike_withProfile (by decide) suppressing
  exact ⟨hadvances, hends hadvances, hsees, (hsame (hends hadvances) suppressing hsees).1⟩

/-- The overrides are looked at in the snapshot that has none, and the rules in the one that has none.
Under either of them the missing note would not have been told. -/
theorem report_of_two_snapshots :
    ((start loaded).run withOneSchema noNote (meanwhile overriding)).report? =
        some { ruleSet := .ubltrMain, schema := some .invoice, profileName := some "p"
               schemaErrors := ["no note"], findings := { profileName := some "p" } } ∧
      ∀ s ∈ inForce loaded.snapshot (meanwhile overriding),
        (resultOf (withOneSchema.validate noNote) { loaded with snapshot := s }).1.toOption.map
          ValidationReport.schemaErrors = some [] := by
  refine ⟨by decide +kernel, ?_⟩
  intro s hs
  simp only [meanwhile, inForce, List.mem_cons, List.not_mem_nil, or_false] at hs
  rcases hs with rfl | rfl
  · decide +kernel
  · decide +kernel

end Validation

end Conformity

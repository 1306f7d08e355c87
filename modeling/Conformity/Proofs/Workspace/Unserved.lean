import Conformity.Proofs.Profile.Document
import Conformity.Proofs.Reload.Callers
import Conformity.Proofs.Table
import Conformity.Proofs.Workspace.Validation

/-!
# Profiles that are not served

A profile is not served if its name is blank or unknown, or if it was broken when the profiles were
last reloaded. A validation looks a profile up for overrides, for assertions, and twice for suppression
rules. The last two lookups go to a table of their own, so it matters that the registry publishes a name
there only together with its profile. Nothing else is ever published (`Workspace.sound_after`), and so
a validation for a profile that is not served ends as one without a profile and leaves both caches
alone (`Workspace.validate_unserved`).
-/

namespace Conformity

/-! ## Published snapshots -/

namespace Snapshot

/-- What the registry can serve: nothing yet, or the snapshot of a document. -/
def IsPublished (s : Snapshot) : Prop :=
  s = {} ∨ ∃ d faults, ofDocument d = .ok (s, faults)

theorem names_of_readyMatchers {ps : Table Profile} {table : Table (List Matcher)}
    {told : List String} (h : readyMatchers ps = .ok (table, told)) : table.names = ps.names := by
  induction ps generalizing table told with
  | nil =>
      cases h
      rfl
  | cons e ps ih =>
      obtain ⟨⟨ms, faults⟩, -, h⟩ := bind_eq_ok.mp h
      obtain ⟨⟨rest, told'⟩, hrest, h⟩ := bind_eq_ok.mp h
      cases h
      rw [Table.names_cons, Table.names_cons, ih hrest]

/-- Matchers are published for the profiles and for nothing else. -/
theorem IsPublished.names_matchers {s : Snapshot} (h : s.IsPublished) :
    s.matchers.names = s.profiles.names := by
  obtain rfl | ⟨d, faults, h⟩ := h
  · rfl
  · obtain ⟨⟨table, told⟩, hready, h⟩ := bind_eq_ok.mp h
    cases h
    exact names_of_readyMatchers hready

/-- Neither a profile nor matchers are found under a name, unless it is blank; then the matchers are not
looked for. -/
structure IsUnserved (s : Snapshot) (name : String) : Prop where
  profile : s.profile? (some name) = none
  matchers : ¬ Text.isBlankText name → s.matchersOf name = none

theorem IsPublished.isUnserved {s : Snapshot} {name : String} (hs : s.IsPublished)
    (h : s.profile? (some name) = none) : s.IsUnserved name := by
  refine ⟨h, fun hblank => ?_⟩
  have hprofile : s.profiles.get? name = none := by
    rw [profile?, Option.filter_some, if_pos (by simpa using hblank)] at h
    exact h
  rw [Table.get?_eq_none_iff] at hprofile
  exact Table.get?_eq_none_iff.mpr (hs.names_matchers ▸ hprofile)

end Snapshot

/-! ## What is published in a workspace -/

namespace Registry

/-- The snapshot of the moment is a published one. -/
def Sound (st : RegistryState) : Prop := st.snapshot.IsPublished

theorem preserves_onDisk {α : Type} (a : Disk.Action α) : Preserves Sound (onDisk a) :=
  fun _ h => h

theorem preserves_reload (store : ProfileStore) : Preserves Sound (reload store) := by
  intro st h
  rw [resultOf_reload]
  unfold reloaded
  split
  · exact h
  · next d _ =>
    cases hd : Snapshot.ofDocument d with
    | error l => exact h
    | ok x =>
        obtain ⟨snapshot, faults⟩ := x
        exact .inr ⟨d, faults, hd⟩

/-- A change of the document that is followed by a reload. -/
theorem preserves_holding {α : Type} {x : Work α} (h : Preserves Sound x) :
    Preserves Sound (lock.holding x) :=
  h.holding fun _ _ h => h

theorem preserves_save (store : ProfileStore) (p : Profile) : Preserves Sound (save store p) := by
  unfold save
  split
  · exact .throw _
  · apply preserves_holding
    exact (preserves_onDisk _).bind fun _ => (preserves_reload store).bind fun _ => .pure _

theorem preserves_delete (store : ProfileStore) (name : String) :
    Preserves Sound (delete store name) := by
  apply preserves_holding
  refine (preserves_onDisk _).bind fun found => ?_
  split
  · exact (preserves_reload store).bind fun _ => .pure _
  · exact .pure _

theorem preserves_saveGlobals (store : ProfileStore) (globals : Assertions) :
    Preserves Sound (saveGlobals store globals) := by
  apply preserves_holding
  exact (preserves_onDisk _).bind fun _ => (preserves_reload store).bind fun _ => .pure _

end Registry

namespace Workspace

variable {w : Workspace} {α : Type}

/-- Where the snapshot of the moment lies. -/
def snapshotSlot : Slot WorkspaceState Snapshot :=
  ⟨WorkspaceState.snapshot, fun s st => { st with snapshot := s }⟩

theorem keeps_snapshot_onSchemas (a : Schemas → Schemas.Work α) :
    Keeps snapshotSlot (w.onSchemas a) :=
  .lift (fun _ _ => rfl) _

theorem keeps_snapshot_onRuleSets (a : RuleSets → RuleSets.Work α) :
    Keeps snapshotSlot (w.onRuleSets a) :=
  .bind .get fun _ => .lift (fun _ _ => rfl) _

theorem keeps_withinLimits {β : Type} {slot : Slot WorkspaceState β} (x : Except PatternLimit α) :
    Keeps slot (withinLimits x) := by
  cases x with
  | error l => exact .throw _
  | ok a => exact .pure a

theorem keeps_suppress {β : Type} {slot : Slot WorkspaceState β} (r : Suppression.Request)
    (findings : List Finding) : Keeps slot (suppress r findings) :=
  .bind .get fun _ => keeps_withinLimits _

theorem keeps_snapshot_schemaErrors (r : Request) : Keeps snapshotSlot (w.schemaErrors r) := by
  unfold schemaErrors
  split
  · exact .pure _
  · refine .bind .get fun _ => .bind (keeps_snapshot_onSchemas _) fun _ => ?_
    exact .bind .get fun _ => .bind (keeps_withinLimits _) fun _ => .pure _

theorem keeps_snapshot_findings (r : Request) : Keeps snapshotSlot (w.findings r) :=
  .bind .get fun _ => keeps_snapshot_onRuleSets _

/-- A validation publishes nothing. -/
theorem keeps_snapshot_validate (r : Request) : Keeps snapshotSlot (w.validate r) := by
  refine .bind (keeps_snapshot_schemaErrors r) fun _ => ?_
  exact .bind (keeps_snapshot_findings r) fun _ => .bind (keeps_suppress _ _) fun _ => .pure _

/-- The snapshot of the moment is a published one. -/
def Sound (st : WorkspaceState) : Prop := st.snapshot.IsPublished

theorem Sound.of_keeps {x : Work α} (h : Keeps snapshotSlot x) : Preserves Sound x :=
  Preserves.of_keeps h

theorem preserves_onProfiles {a : ProfileStore → Registry.Work α}
    (h : Preserves Registry.Sound (a w.store)) : Preserves Sound (w.onProfiles a) :=
  h.lift (fun _ h => h) fun _ _ h => h

theorem preserves_precompile (profile : String) : Preserves Sound (w.precompile profile) := by
  refine .bind (.bind .get fun _ => .pure _) fun found => ?_
  split
  · exact .pure _
  · refine .bind (.forM (fun e => ?_) _) fun _ => .forM (fun e => ?_) _
    · exact .bind (.of_keeps (keeps_snapshot_onSchemas _)) fun _ => .pure _
    · exact .bind (.of_keeps (keeps_snapshot_onRuleSets _)) fun _ => .pure _

theorem preserves_follow (change : ProfileChange) : Preserves Sound (w.follow change) := by
  refine .bind (.update fun _ h => h) fun _ => ?_
  split
  · exact preserves_precompile _
  · exact .pure _

theorem preserves_save (p : Profile) : Preserves Sound (w.save p) :=
  .bind (preserves_onProfiles (Registry.preserves_save _ p)) preserves_follow

theorem preserves_delete (name : String) : Preserves Sound (w.delete name) := by
  refine .bind (preserves_onProfiles (Registry.preserves_delete _ name)) fun found => ?_
  split
  · exact .bind (preserves_follow _) fun _ => .pure _
  · exact .pure _

theorem preserves_saveGlobals (globals : Assertions) : Preserves Sound (w.saveGlobals globals) := by
  refine .bind (preserves_onProfiles (Registry.preserves_saveGlobals _ globals)) fun change => ?_
  refine .bind (preserves_follow change) fun _ => ?_
  exact .holding (.of_keeps (keeps_snapshot_onRuleSets _)) fun _ _ h => h

theorem preserves_impact (t : RuleSetType) (source : Bytes) : Preserves Sound (w.impact t source) := by
  refine .bind (.of_keeps (keeps_snapshot_onRuleSets _)) fun old => ?_
  refine .bind (preserves_onProfiles (Registry.preserves_onDisk _)) fun document => ?_
  split
  · exact .throw _
  · exact Sound.of_keeps (keeps_withinLimits _)

theorem sound_reloadEach {subsystems : List (Subsystem WorkspaceState)}
    (h : ∀ s ∈ subsystems, ∀ st, Sound st → Sound (s.reload st).2) (done : List ReloadResult)
    {st : WorkspaceState} (hst : Sound st) : Sound (reloadEach done subsystems st).2 := by
  induction subsystems generalizing done st with
  | nil => exact hst
  | cons s rest ih =>
      rw [List.forall_mem_cons] at h
      rw [Reception.reloadEach_cons]
      split
      · exact ih h.2 _ (h.1 st hst)
      · exact h.1 st hst

/-- A reload of everything publishes what the registry does. -/
theorem sound_reload {st : WorkspaceState} (hst : Sound st) : Sound (w.reload st).2 := by
  show Sound (reloadAll deskSlot w.subsystems st).2
  by_cases hlocked : (deskSlot.get st).locked
  · rw [Reception.reloadAll_of_locked hlocked]
    exact hst
  · rw [Reception.reloadAll_of_free (by simpa using hlocked)]
    have hwork : ∀ (name : String) (a : Work ReloadResult), Preserves Sound a →
        ∀ st, Sound st → Sound ((subsystem name a).reload st).2 := fun _ a ha st h => ha st h
    have htaken : Sound (deskSlot.change ReloadDesk.taken st) := hst
    refine sound_reloadEach ?_ [] htaken
    simp only [subsystems, List.forall_mem_cons, List.not_mem_nil, false_implies, implies_true,
      and_true]
    exact ⟨hwork _ _ (preserves_onProfiles (Registry.preserves_reload _)),
      hwork _ _ (.of_keeps (keeps_snapshot_onSchemas _)),
      hwork _ _ (.of_keeps (keeps_snapshot_onRuleSets _))⟩

/-! ## Runs of a workspace -/

/-- Something that a workspace is asked for, or that happens to its files meanwhile. -/
inductive Event where
  | reload
  | save (p : Profile)
  | delete (name : String)
  | saveGlobals (globals : Assertions)
  | precompile (profile : String)
  | validate (r : Request)
  | override (t : SchemaType) (overrides : List Override) (profile : Option String)
  | custom (t : RuleSetType) (assertions : List Assertion) (profile : Option String)
  | impact (t : RuleSetType) (source : Bytes)
  /-- Files are changed by somebody else. -/
  | files (disk : Disk)

/-- What an event makes of a workspace. -/
def Event.next (w : Workspace) (st : WorkspaceState) : Event → WorkspaceState
  | .reload => (w.reload st).2
  | .save p => (resultOf (w.save p) st).2
  | .delete name => (resultOf (w.delete name) st).2
  | .saveGlobals globals => (resultOf (w.saveGlobals globals) st).2
  | .precompile profile => (resultOf (w.precompile profile) st).2
  | .validate r => (resultOf (w.validate r) st).2
  | .override t overrides profile =>
    (resultOf (w.onSchemas fun s => s.custom t overrides profile) st).2
  | .custom t assertions profile =>
    (resultOf (w.onRuleSets fun s => s.custom t assertions profile) st).2
  | .impact t source => (resultOf (w.impact t source) st).2
  | .files disk => { st with disk }

/-- A workspace after events, each of which has its own time. -/
def after (w : Workspace) (st : WorkspaceState) (events : List (Present × Event)) : WorkspaceState :=
  events.foldl (fun st e => e.2.next { w with present := e.1 } st) st

/-- One event publishes nothing but snapshots of documents. -/
theorem Event.sound_next (w : Workspace) (e : Event) {st : WorkspaceState} (h : Sound st) :
    Sound (e.next w st) := by
  cases e with
  | reload => exact sound_reload h
  | save p => exact preserves_save p st h
  | delete name => exact preserves_delete name st h
  | saveGlobals globals => exact preserves_saveGlobals globals st h
  | precompile profile => exact preserves_precompile profile st h
  | validate r => exact Sound.of_keeps (keeps_snapshot_validate r) st h
  | override t overrides profile => exact Sound.of_keeps (keeps_snapshot_onSchemas _) st h
  | custom t assertions profile => exact Sound.of_keeps (keeps_snapshot_onRuleSets _) st h
  | impact t source => exact preserves_impact t source st h
  | files disk => exact h

/-- Neither do any number of them. -/
theorem sound_after (w : Workspace) {st : WorkspaceState} (h : Sound st)
    (events : List (Present × Event)) : Sound (w.after st events) := by
  induction events generalizing st with
  | nil => exact h
  | cons e events ih => exact ih (e.2.sound_next { w with present := e.1 } h)

/-! ## Lookups for a profile that is not served -/

end Workspace

namespace Suppression

variable {rulesOf : String → Option (List Matcher)} {r : Request} {name : String}

/-- Without rules of its own, a profile is the same to a request as none. -/
theorem gather_unserved (h : ¬ Text.isBlankText name → rulesOf name = none) :
    gather rulesOf { r with profileName := some name } =
      gather rulesOf { r with profileName := none } := by
  unfold gather
  by_cases hblank : Text.isBlankText name
  · simp [hblank]
  · simp [hblank, h hblank]

theorem applyTexts_unserved (h : ¬ Text.isBlankText name → rulesOf name = none)
    (texts : List String) :
    applyTexts rulesOf { r with profileName := some name } texts =
      applyTexts rulesOf { r with profileName := none } texts := by
  unfold applyTexts
  rw [gather_unserved h]

theorem apply_unserved (h : ¬ Text.isBlankText name → rulesOf name = none)
    (findings : List Finding) :
    apply rulesOf { r with profileName := some name } findings =
      (apply rulesOf { r with profileName := none } findings).map
        fun p => { p with profileName := some name } := by
  unfold apply
  rw [gather_unserved h]
  split
  · rfl
  · cases gather rulesOf { r with profileName := none } <;> rfl

end Suppression

/-- The report for a profile of another name. -/
def ValidationReport.named (name : Option String) (report : ValidationReport) : ValidationReport :=
  { report with profileName := name, findings := { report.findings with profileName := name } }

namespace Workspace

variable {w : Workspace} {r : Request} {name : String} {s : Snapshot}

/-- The request without a profile. -/
def Request.anonymous (r : Request) : Request := { r with profile := none }

/-- The request for a profile. -/
def Request.forProfile (r : Request) (name : String) : Request := { r with profile := some name }

/-- Two pieces of work are the same wherever a snapshot is in force. -/
def SameUnder {α : Type} (s : Snapshot) (x y : Work α) : Prop :=
  ∀ st, st.snapshot = s → resultOf x st = resultOf y st

namespace SameUnder

variable {α β : Type}

theorem of_eq {x y : Work α} (h : x = y) : SameUnder s x y := fun st _ => by rw [h]

theorem refl (x : Work α) : SameUnder s x x := of_eq rfl

theorem bind {x y : Work α} {f g : α → Work β} (hxy : SameUnder s x y)
    (hx : Keeps snapshotSlot x) (hfg : ∀ a, SameUnder s (f a) (g a)) :
    SameUnder s (x >>= f) (y >>= g) := by
  intro st hst
  rw [resultOf_bind, resultOf_bind, ← hxy st hst]
  rcases heq : resultOf x st with ⟨result, st₁⟩
  have hst₁ : st₁.snapshot = s := (hx.get_eq heq).trans hst
  cases result with
  | ok a => exact hfg a st₁ hst₁
  | error e => rfl

/-- What is made of the state of the moment is made of one in which the snapshot is in force. -/
theorem get {f g : WorkspaceState → Work α}
    (h : ∀ st₀, st₀.snapshot = s → SameUnder s (f st₀) (g st₀)) :
    SameUnder s (MonadState.get >>= f) (MonadState.get >>= g) :=
  fun st hst => h st hst st hst

end SameUnder

/-- Without overrides it does not matter for whom a schema is asked. -/
theorem validate_nil (x : Schemas) (t : SchemaType) (document : Bytes) (profile : Option String) :
    x.validate t document [] profile = x.validate t document [] none := by
  unfold Schemas.validate
  rw [if_pos List.isEmpty_nil, if_pos List.isEmpty_nil]

/-- Without further assertions it does not matter for whom a rule-set is run. -/
theorem run_nil (x : RuleSets) (run : RuleSets.Request) (h : run.assertions = []) :
    x.run run = x.run { run with profile := none } := by
  unfold RuleSets.run
  dsimp only
  rw [h, if_pos List.isEmpty_nil, if_pos List.isEmpty_nil]

theorem overridesFor_unserved (h : s.IsUnserved name) (type : String) :
    s.overridesFor (some name) type = [] := by
  rw [Snapshot.overridesFor, h.profile]
  rfl

theorem assertionsFor_unserved (h : s.IsUnserved name) (type : String) :
    s.assertionsFor (some name) type = [] := by
  rw [Snapshot.assertionsFor, h.profile]
  rfl

theorem schemaErrors_unserved (h : s.IsUnserved name) :
    SameUnder s (w.schemaErrors (r.forProfile name)) (w.schemaErrors r.anonymous) := by
  have hleft : ∀ errors, Suppression.applyTexts s.matchersOf (r.forProfile name).suppression errors =
      Suppression.applyTexts s.matchersOf r.anonymous.suppression errors :=
    Suppression.applyTexts_unserved (r := r.suppression) h.matchers
  have hschema : (r.forProfile name).schema = r.schema := rfl
  have hschema' : r.anonymous.schema = r.schema := rfl
  unfold schemaErrors
  rw [hschema, hschema']
  cases r.schema with
  | none => exact .refl _
  | some t =>
      dsimp only
      refine .get fun st₀ hst₀ => ?_
      have hown : s.overridesFor (r.forProfile name).profile t.name = [] := overridesFor_unserved h _
      have hnone : s.overridesFor r.anonymous.profile t.name = [] := rfl
      rw [hst₀, hown, hnone]
      simp only [validate_nil _ t _ (r.forProfile name).profile]
      refine .bind (.refl _) (keeps_snapshot_onSchemas _) fun errors => ?_
      refine .get fun st₁ hst₁ => ?_
      rw [hst₁, hleft]
      exact .refl _

theorem findings_unserved (h : s.IsUnserved name) :
    SameUnder s (w.findings (r.forProfile name)) (w.findings r.anonymous) := by
  unfold findings
  refine .get fun st₀ hst₀ => ?_
  have hown : s.assertionsFor (r.forProfile name).profile (r.forProfile name).ruleSet.name = [] :=
    assertionsFor_unserved h _
  have hnone : s.assertionsFor r.anonymous.profile r.anonymous.ruleSet.name = [] := rfl
  rw [hst₀, hown, hnone]
  exact .of_eq (congrArg w.onRuleSets (funext fun x => run_nil x _ rfl))

theorem suppress_unserved (h : s.IsUnserved name) (findings : List Finding) :
    SameUnder s (suppress (r.forProfile name).suppression findings)
      (do return { ← suppress r.anonymous.suppression findings with profileName := some name }) := by
  have happly : Suppression.apply s.matchersOf (r.forProfile name).suppression findings =
      (Suppression.apply s.matchersOf r.anonymous.suppression findings).map
        fun p => { p with profileName := some name } :=
    Suppression.apply_unserved (r := r.suppression) h.matchers findings
  unfold suppress
  simp only [bind_assoc]
  refine .get fun st₀ hst₀ => ?_
  rw [hst₀, happly]
  cases Suppression.apply s.matchersOf r.anonymous.suppression findings <;> exact .refl _

/-- Under a snapshot that does not serve a profile, a validation for it comes to the same as one without
a profile, but for the name in the report. -/
theorem validate_same (h : s.IsUnserved name) :
    SameUnder s (w.validate (r.forProfile name))
      (do return (← w.validate r.anonymous).named (some name)) := by
  unfold validate
  simp only [bind_assoc, pure_bind]
  refine .bind (schemaErrors_unserved h) (keeps_snapshot_schemaErrors _) fun errors => ?_
  refine .bind (findings_unserved h) (keeps_snapshot_findings _) fun found => ?_
  have hsuppress := SameUnder.bind (suppress_unserved (r := r) h found) (keeps_suppress _ _)
    fun parts => .refl (pure (f := Work) ({
      ruleSet := r.ruleSet, schema := r.schema, profileName := some name, schemaErrors := errors.1
      suppressedSchemaErrors := errors.2, findings := parts } : ValidationReport))
  simp only [bind_assoc, pure_bind] at hsuppress
  exact hsuppress

/-! ## Both caches -/

/-- Where both caches lie. -/
def cachesSlot : Slot WorkspaceState
    (ComputeCache OverrideKey Schema × ComputeCache RuleKey Artifact) :=
  ⟨fun st => (st.schemaCache, st.ruleCache),
    fun c st => { st with schemaCache := c.1, ruleCache := c.2 }⟩

/-- To validate against a schema as it is loaded changes nothing. -/
theorem keeps_validate_nil (x : Schemas) (t : SchemaType) (document : Bytes)
    (profile : Option String) : Keeps .whole (x.validate t document [] profile) := by
  unfold Schemas.validate
  rw [if_pos List.isEmpty_nil]
  refine .bind (.bind .get fun _ => .pure _) fun schema => ?_
  cases schema with
  | none => exact .throw _
  | some schema => exact .pure _

/-- To run a rule-set as it is loaded compiles nothing. -/
theorem keeps_run_nil (x : RuleSets) (run : RuleSets.Request) (h : run.assertions = []) :
    Keeps RuleSets.cache (x.run run) := by
  unfold RuleSets.run
  rw [h, if_pos List.isEmpty_nil]
  refine .bind (.bind .get fun _ => .pure _) fun artifact => ?_
  cases artifact with
  | none => exact .throw _
  | some a =>
      -- what is noted of the run does not lie in the cache
      refine .bind (fun _ => rfl) fun _ => ?_
      split
      · exact .throw _
      · split
        · exact .pure _
        · exact .throw _

/-- A validation without a profile compiles nothing. -/
theorem keeps_caches_validate (r : Request) : Keeps cachesSlot (w.validate r.anonymous) := by
  have hschemas : Keeps cachesSlot (w.schemaErrors r.anonymous) := by
    unfold schemaErrors
    split
    · exact .pure _
    · next t _ =>
      refine .bind .get fun st₀ => .bind (fun st => ?_) fun _ => ?_
      · have hkeeps := keeps_validate_nil w.schemas t r.document none (schemaSlot.get st)
        exact congrArg (fun part => (SchemaState.cache part, st.ruleCache)) hkeeps
      · exact .bind .get fun _ => .bind (keeps_withinLimits _) fun _ => .pure _
  have hfindings : Keeps cachesSlot (w.findings r.anonymous) := by
    refine .bind .get fun st₀ => .bind .get fun st₁ st => ?_
    have hkeeps := keeps_run_nil (w.ruleSets st₁.snapshot)
      { type := r.ruleSet, document := r.document, subtype := some (w.subtypeOf r)
        assertions := [], profile := none, base := r.place } rfl (ruleSlot.get st)
    exact congrArg (st.schemaCache, ·) hkeeps
  refine .bind hschemas fun _ => .bind hfindings fun _ => ?_
  exact .bind (keeps_suppress _ _) fun _ => .pure _

/-- Whatever has happened to a workspace: for a profile that it does not serve, a validation ends as one
without a profile does, in the same state and with the same failure, or with the same report but for the
name in it; and it changes neither cache. -/
theorem validate_unserved (w : Workspace) (disk : Disk) (events : List (Present × Event))
    (r : Request) (name : String)
    (h : (w.after (start disk) events).snapshot.profile? (some name) = none) :
    let st := w.after (start disk) events
    let plain := resultOf (w.validate { r with profile := none }) st
    let ended := resultOf (w.validate { r with profile := some name }) st
    ended.1 = plain.1.map (ValidationReport.named (some name)) ∧ ended.2 = plain.2 ∧
      ended.2.schemaCache = st.schemaCache ∧ ended.2.ruleCache = st.ruleCache := by
  intro st plain ended
  have hsound : Sound st := sound_after w (.inl rfl) events
  have hsame : ended = (plain.1.map (ValidationReport.named (some name)), plain.2) :=
    (validate_same (hsound.isUnserved h) st rfl).trans (resultOf_map _ _ _)
  have hcaches : cachesSlot.get plain.2 = cachesSlot.get st := keeps_caches_validate r st
  rw [hsame]
  exact ⟨rfl, rfl, congrArg Prod.fst hcaches, congrArg Prod.snd hcaches⟩

/-! ## A profile without its parent -/

/-- The profile `lost` extends one that is not there. -/
def lostProfile : Bytes := bytesOf
  "profiles:
  lost:
    extends: nowhere
    suppressions:
    - pattern: no note
      match: text
  base:
    description: served
"

/-- A workspace with one schema and a rule-set that reports nothing. -/
def withBoth : Workspace :=
  { Validation.withOneSchema with
    config :=
      { schemas := [(.invoice, "invoice.xsd")]
        ruleSets := [(.ubltrMain, { path := "main.xsl", kind := .stylesheet })] } }

/-- Its files. -/
def lostDisk : Disk where
  nodes :=
    [(["assets"], .folder), (["assets", "invoice.xsd"], .file Validation.strict),
      (["assets", "main.xsl"], .file (bytesOf
        "<xsl:stylesheet version='1.0' xmlns:xsl='http://www.w3.org/1999/XSL/Transform'/>")),
      (["assets", "validation-profiles.yml"], .file lostProfile)]

/-- Everything is reloaded once. -/
def oneReload : List (Present × Event) := [({ here := "now", universal := "now" }, .reload)]

/-- The profile that is dropped suppresses nothing, and the report carries its name. -/
theorem validate_unserved_of_lost :
    let st := withBoth.after (start lostDisk) oneReload
    st.snapshot.profiles.names = ["base"] ∧ st.snapshot.profile? (some "lost") = none ∧
      (resultOf (withBoth.validate { Validation.noNote with profile := some "lost" }) st).1 =
        .ok { ruleSet := .ubltrMain, schema := some .invoice, profileName := some "lost"
              schemaErrors := ["no note"], findings := { profileName := some "lost" } } := by
  intro st
  have hlost : st.snapshot.profile? (some "lost") = none := by decide +kernel
  have hplain : (resultOf (withBoth.validate { Validation.noNote with profile := none }) st).1 =
      .ok { ruleSet := .ubltrMain, schema := some .invoice, schemaErrors := ["no note"] } :=
    eq_ok_of_toOption (by decide +kernel)
  obtain ⟨hended, -⟩ :=
    validate_unserved withBoth lostDisk oneReload Validation.noNote "lost" hlost
  refine ⟨by decide +kernel, hlost, ?_⟩
  rw [hended, hplain]
  rfl

end Workspace

end Conformity

import Conformity.Profile.Registry
import Conformity.Reload.Orchestrator
import Conformity.RuleSet.Service
import Conformity.Schema.Service

/-!
# Workspaces

A workspace brings profiles, schemas and rule-sets together over one disk and one engine. They are
reloaded in this order, for rule-sets take the global assertions that have just been loaded. A change
of the profiles drops everything compiled for profiles, and compiles anew what the changed profile
asks for.
-/

namespace Conformity

/-- What a workspace is made of. -/
structure Workspace where
  storage : Storage
  config : Config := {}
  engine : Engine
  present : Present

/-- The state of a workspace. -/
structure WorkspaceState where
  disk : Disk
  log : EngineLog := {}
  snapshot : Snapshot := {}
  schemas : List (SchemaType × Schema) := []
  ruleSets : List (RuleSetType × Artifact) := []
  schemaCache : ComputeCache OverrideKey Schema
  ruleCache : ComputeCache RuleKey Artifact
  desk : ReloadDesk := {}

namespace Workspace

/-- Something done with a workspace. -/
abbrev Work (α : Type) := ExceptT Failure (StateM WorkspaceState) α

/-- A workspace in which nothing is loaded. Its caches hold fifty results each, for an hour. -/
def start (disk : Disk) : WorkspaceState where
  disk := disk
  schemaCache := { name := "schema-override", maxSize := 50, lifetime := 3600 }
  ruleCache := { name := "rule", maxSize := 50, lifetime := 3600 }

/-! ## Parts of the state -/

/-- The registry in a workspace. -/
def registrySlot : Slot WorkspaceState RegistryState :=
  ⟨fun s => ⟨s.disk, s.snapshot, s.desk.locked⟩,
    fun r s =>
      { s with disk := r.disk, snapshot := r.snapshot, desk := { s.desk with locked := r.locked } }⟩

/-- The schemas in a workspace. -/
def schemaSlot : Slot WorkspaceState SchemaState :=
  ⟨fun s => ⟨s.disk, s.log, s.schemas, s.schemaCache⟩,
    fun p s =>
      { s with disk := p.disk, log := p.log, schemas := p.loaded, schemaCache := p.cache }⟩

/-- The rule-sets in a workspace. -/
def ruleSlot : Slot WorkspaceState RuleSetState :=
  ⟨fun s => ⟨s.disk, s.log, s.ruleSets, s.ruleCache⟩,
    fun p s => { s with disk := p.disk, log := p.log, ruleSets := p.loaded, ruleCache := p.cache }⟩

/-- The desk of a workspace. -/
def deskSlot : Slot WorkspaceState ReloadDesk :=
  ⟨WorkspaceState.desk, fun d s => { s with desk := d }⟩

/-- The lock of reloads in a workspace. -/
def lockSlot : Slot WorkspaceState Bool :=
  ⟨fun s => s.desk.locked, fun b s => { s with desk := { s.desk with locked := b } }⟩

/-- Where the profiles document lies. -/
def store (w : Workspace) : ProfileStore := ⟨w.storage, w.config.assets.profilesFile⟩

/-- The schemas of a workspace. -/
def schemas (w : Workspace) : Schemas := ⟨w.storage, w.config.schemas, w.engine, w.present⟩

/-- The rule-sets of a workspace, with the global assertions of a snapshot. -/
def ruleSets (w : Workspace) (s : Snapshot) : RuleSets :=
  ⟨w.storage, w.config.ruleSets, w.config.compiler, w.engine, s.globals, w.present⟩

/-- Does something with the registry. -/
def onProfiles {α : Type} (w : Workspace) (a : ProfileStore → Registry.Work α) : Work α :=
  registrySlot.lift (a w.store)

/-- Does something with the schemas. -/
def onSchemas {α : Type} (w : Workspace) (a : Schemas → Schemas.Work α) : Work α :=
  schemaSlot.lift (a w.schemas)

/-- Does something with the rule-sets. -/
def onRuleSets {α : Type} (w : Workspace) (a : RuleSets → RuleSets.Work α) : Work α := do
  ruleSlot.lift (a (w.ruleSets (← get).snapshot))

/-! ## Reloading -/

/-- Something to reload, as a subsystem. -/
def subsystem (name : String) (a : Work ReloadResult) : Subsystem WorkspaceState :=
  ⟨name, a.run.map fun r =>
    match r with
    | .ok r => .result r
    | .error e => .broken e.message⟩

/-- What is reloaded, in order. -/
def subsystems (w : Workspace) : List (Subsystem WorkspaceState) :=
  [subsystem Registry.component (w.onProfiles Registry.reload),
    subsystem Schemas.component (w.onSchemas Schemas.reload),
    subsystem RuleSets.component (w.onRuleSets RuleSets.reload)]

/-- Reloads everything. -/
def reload (w : Workspace) : StateM WorkspaceState (List ReloadResult) :=
  (reloadAll deskSlot w.subsystems).map fun r => r.toOption.getD []

/-! ## Profiles -/

/-- The profile with a name, with what it inherits. -/
def profile? (name : String) : Work (Option Profile) := do
  return (← get).snapshot.profile? (some name)

/-- Compiles what a profile asks for ahead of its use. -/
def precompile (w : Workspace) (profile : String) : Work Unit := do
  match ← profile? profile with
  | none => return ()
  | some p =>
    p.overrides.forM fun e => do
      let _ ← w.onSchemas fun s => s.precompile e.1 e.2 (some profile)
    p.assertions.forM fun e => do
      let _ ← w.onRuleSets fun s => s.precompile e.1 e.2 (some profile)

/-- Follows a change of the profiles. -/
def follow (w : Workspace) (change : ProfileChange) : Work Unit := do
  modify fun s =>
    { s with
      schemaCache := s.schemaCache.invalidateAll
      ruleCache := s.ruleCache.invalidateAll }
  match change.profile? with
  | some name => w.precompile name
  | none => return ()

/-- Puts a profile into the profiles document. -/
def save (w : Workspace) (p : Profile) : Work Unit := do
  w.follow (← w.onProfiles fun store => Registry.save store p)

/-- Removes a profile from the profiles document. Was it there? -/
def delete (w : Workspace) (name : String) : Work Bool := do
  match ← w.onProfiles fun store => Registry.delete store name with
  | some change =>
    w.follow change
    return true
  | none => return false

/-- Replaces the global assertions, and compiles the rule-sets that contain them anew. -/
def saveGlobals (w : Workspace) (globals : Assertions) : Work ReloadResult := do
  w.follow (← w.onProfiles fun store => Registry.saveGlobals store globals)
  lockSlot.holding (w.onRuleSets RuleSets.reload)

end Workspace

end Conformity

import Conformity.Cache.Obtain
import Conformity.Finding.Report
import Conformity.Present
import Conformity.Reload.Orchestrator
import Conformity.RuleSet.Artifact
import Conformity.Storage.Basic

/-!
# Rule-sets at work

The configured rule-sets are compiled when they are reloaded, each with the global assertions for its
type. Rule-sets with further assertions are compiled when they are asked for, and kept in a cache under
their type, the profile and the fingerprint of all assertions. What is compiled leaves files for audits
behind; that a file cannot be written harms nothing.
-/

namespace Conformity

/-- What a rule-set with further assertions is kept under. -/
structure RuleKey where
  type : String
  profile : String
  fingerprint : String
  deriving DecidableEq, Repr

/-- A key as messages tell it. -/
def RuleKey.told (k : RuleKey) : String :=
  "RuleCacheKey(rule_set_type=" ++ Text.quoted k.type ++ ", profile_name=" ++
    Text.quoted k.profile ++ ", fingerprint=" ++ Text.quoted k.fingerprint ++ ")"

/-- What rule-sets are compiled from and with. -/
structure RuleSets where
  storage : Storage
  configured : List (RuleSetType × Config.RuleSet)
  compiler : Config.Compiler := {}
  engine : Engine
  /-- The assertions that every rule-set of a type gets. -/
  globals : Assertions := []
  present : Present

/-- The rule-sets that are loaded, with the disk and the engine's log. -/
structure RuleSetState where
  disk : Disk
  log : EngineLog := {}
  loaded : List (RuleSetType × Artifact) := []
  cache : ComputeCache RuleKey Artifact

namespace RuleSets

/-- Something done with rule-sets. -/
abbrev Work (α : Type) := ExceptT Failure (StateM RuleSetState) α

/-- Where the disk lies. -/
def disk : Slot RuleSetState Disk := ⟨RuleSetState.disk, fun d s => { s with disk := d }⟩

/-- Where the engine's log lies. -/
def log : Slot RuleSetState EngineLog := ⟨RuleSetState.log, fun l s => { s with log := l }⟩

/-- Where the cache lies. -/
def cache : Slot RuleSetState (ComputeCache RuleKey Artifact) :=
  ⟨RuleSetState.cache, fun c s => { s with cache := c }⟩

/-- Does something with the disk. -/
def onDisk {α : Type} (a : Disk.Action α) : Work α := disk.lift a

/-- Does something with the engine. -/
def withEngine {α : Type} (a : Artifact.Work α) : Work α :=
  ExceptT.mk ((log.within a.run).map fun r => r.mapError .compilation)

/-- The folder for generated stylesheets. -/
def generatedFolder : String := "schematron"

/-- The folder for rule-sets with further assertions. -/
def customFolder : String := "schematron-rules"

/-- The profile that global assertions are told to come from. -/
def globalProfile : String := "global"

/-- The profile that is told where there is none. -/
def anonymousProfile : String := "anonymous"

/-- The settings of a type. -/
def setting (s : RuleSets) (t : RuleSetType) : Work Config.RuleSet :=
  match s.configured.lookup t with
  | some c => return c
  | none => throw (.unavailable (.noRuleSet t.name))

/-- The source of a rule-set, with its place. -/
def source (s : RuleSets) (t : RuleSetType) : Work RuleSource := do
  let c ← s.setting t
  if !(← onDisk (s.storage.isAsset c.path)) then
    throw (.unavailable (.missingRuleSet t.name c.path))
  else
    let place ← onDisk (s.storage.locate c.path)
    let content ← onDisk (s.storage.read c.path)
    return ⟨content, some (Path.text place)⟩

/-- The global assertions of a type. -/
def globalsFor (s : RuleSets) (t : RuleSetType) : List Assertion :=
  (s.globals.get? t.name).getD []

/-! ## Files for audits -/

/-- Writes a file for audits. The file system may refuse it. -/
def writeAudit (s : RuleSets) (folder name : String) (content : Bytes) : Work Unit :=
  tryCatch (do let _ ← onDisk (s.storage.writeGenerated folder name content))
    fun e => if e.isSystem then return () else throw e

/-- What is told about a rule-set with further assertions. -/
def auditNote (s : RuleSets) (t : RuleSetType) (profile : String) (assertions : List Assertion) :
    String :=
  "Custom Schematron Rules Output\n" ++
    "     Profile:        " ++ profile ++ "\n" ++
    "     Rule-set Type:  " ++ t.name ++ "\n" ++
    "     Generated:      " ++ s.present.here ++ "\n" ++
    "     Custom Rules:   " ++ toString assertions.length ++ " assertion(s)\n"

/-- Writes the files about a rule-set with further assertions. -/
def writeCustomAudit (s : RuleSets) (t : RuleSetType) (profile : String) (injected : Bytes)
    (a : Artifact) (assertions : List Assertion) : Work Unit := do
  let base := t.name ++ "_" ++ safeIdentifier (some profile) ++ "_custom"
  s.writeAudit customFolder (base ++ ".xml")
    (withLeadingComment injected (s.auditNote t profile assertions))
  s.writeAudit customFolder (base ++ ".xsl") a.generated

/-! ## Compiling -/

/-- A source with assertions injected. -/
def inject (s : RuleSets) (source : RuleSource) (assertions : List Assertion) (profile : String) :
    Work RuleSource :=
  match Injection.inject source assertions (some profile) s.present.here with
  | .ok injected => return injected
  | .error .malformed => throw .injection
  | .error (.unwritable _) => throw (.refused .unwritable)

/-- Compiles a configured rule-set with the global assertions for its type. -/
def compile (s : RuleSets) (t : RuleSetType) : Work Artifact := do
  let c ← s.setting t
  let source ← s.source t
  match c.kind with
  | .stylesheet => withEngine (Artifact.load s.engine source.content t.name)
  | .source =>
    let assertions := s.globalsFor t
    if assertions.isEmpty then withEngine (Artifact.compile s.engine s.compiler source t.name)
    else
      let injected ← s.inject source assertions globalProfile
      let a ← withEngine (Artifact.compile s.engine s.compiler injected t.name)
      s.writeCustomAudit t globalProfile injected.content a assertions
      return a

/-- Compiles the configured rule-sets one after another; those that fail are told. -/
def compileEach (s : RuleSets) : List (RuleSetType × Config.RuleSet) →
    Work (List (RuleSetType × Artifact) × List String)
  | [] => return ([], [])
  | (t, c) :: rest => do
    let compiled ← tryCatch ((s.compile t).map Except.ok) fun e =>
      if e.isOwn then return .error e else throw e
    match compiled with
    | .ok a =>
      if c.kind = .source then s.writeAudit generatedFolder (t.name ++ ".xsl") a.generated
      let (loaded, errors) ← s.compileEach rest
      return ((t, a) :: loaded, errors)
    | .error e =>
      let (loaded, errors) ← s.compileEach rest
      return (loaded, (t.name ++ ": " ++ e.message) :: errors)

/-- The name of this part of the program. -/
def component : String := "Schematron Rules"

/-- Compiles all configured rule-sets anew, and forgets everything kept before. -/
def reload (s : RuleSets) : Work ReloadResult := do
  onDisk (s.storage.clearGenerated generatedFolder)
  onDisk (s.storage.clearGenerated customFolder)
  modify (cache.change ComputeCache.invalidateAll)
  let (loaded, errors) ← s.compileEach s.configured
  modify fun st => { st with loaded }
  return .ofCount component loaded.length 0 errors

/-- The loaded rule-set of a type. -/
def loaded? (t : RuleSetType) : Work (Option Artifact) := do return (← get).loaded.lookup t

/-! ## Further assertions -/

/-- The key of a rule-set with further assertions. -/
def key (s : RuleSets) (t : RuleSetType) (assertions : List Assertion) (profile : Option String) :
    RuleKey :=
  ⟨t.name, (profile.filter fun p => !p.isEmpty).getD anonymousProfile,
    Assertion.fingerprint (s.globalsFor t ++ assertions)⟩

/-- Compiles a rule-set with assertions. -/
def compileCustom (s : RuleSets) (t : RuleSetType) (assertions : List Assertion)
    (profile : String) : Work Artifact := do
  let c ← s.setting t
  if c.kind = .stylesheet then throw (.unavailable (.fixedRuleSet t.name))
  else
    let injected ← s.inject (← s.source t) assertions profile
    let a ← withEngine
      (Artifact.compile s.engine s.compiler injected (t.name ++ "[" ++ profile ++ "]"))
    s.writeCustomAudit t profile injected.content a assertions
    return a

/-- The rule-set of a type with the global and further assertions. -/
def custom (s : RuleSets) (t : RuleSetType) (assertions : List Assertion)
    (profile : Option String) : Work Artifact :=
  let k := s.key t assertions profile
  ComputeCache.obtain cache s.present.ticks k.told k
    (s.compileCustom t (s.globalsFor t ++ assertions) k.profile)

/-- Compiles a rule-set with further assertions ahead of its use. Is it there now? -/
def precompile (s : RuleSets) (type : String) (assertions : List Assertion)
    (profile : Option String) : Work Bool :=
  if assertions.isEmpty then return false
  else
    match RuleSetType.ofName? type with
    | none => return false
    | some t => tryCatch ((s.custom t assertions profile).map fun _ => true) fun _ => return false

/-! ## Running -/

/-- A run of a rule-set on a document. -/
structure Request where
  type : RuleSetType
  document : Bytes
  /-- The value of the parameter `type`, if the rule-set has it. -/
  subtype : Option String := none
  assertions : List Assertion := []
  profile : Option String := none
  /-- The place of the document. -/
  base : Option String := none

/-- The raw findings of a run. -/
def run (s : RuleSets) (r : Request) : Work (List Finding) := do
  let artifact ←
    if r.assertions.isEmpty then loaded? r.type
    else (s.custom r.type r.assertions r.profile).map some
  match artifact with
  | none => throw (.unavailable (.ruleSetNotLoaded r.type.name))
  | some a =>
    let parameters :=
      match r.subtype with
      | some t => if !t.isEmpty && a.accepts "type" then [("type", t)] else []
      | none => []
    let run : Run := ⟨none, parameters, r.base⟩
    modify (log.change fun l => { l with runs := run :: l.runs })
    match s.engine.apply a.stylesheet run r.document with
    | .error f => throw (.unavailable (.run r.type.name f.message))
    | .ok output =>
      match Report.findings (.bytes output) with
      | .ok findings => return findings
      | .error e => throw (.ofRefusal e)

end RuleSets

end Conformity

import Conformity.Cache.Obtain
import Conformity.Config.Basic
import Conformity.Data.Shown
import Conformity.Present
import Conformity.Profile.Identifier
import Conformity.Reload.Orchestrator
import Conformity.Schema.Overridden
import Conformity.Storage.Basic
import Conformity.Text.Comment

/-!
# Schemas at work

The configured schemas are compiled when they are reloaded. Schemas with occurrence overrides are
compiled when they are asked for, and kept in a cache under their type and the overrides, whatever
profile these come from. A schema with overrides is left behind as a file for audits.
-/

namespace Conformity

/-- A key as messages tell it. -/
def OverrideKey.told (k : OverrideKey) : String :=
  "OverrideCacheKey(schema_type=" ++ Text.quoted k.type ++ ", overrides=" ++
    Data.shownRow (k.overrides.map Text.quoted) ++ ")"

/-- What schemas are compiled from and with. -/
structure Schemas where
  storage : Storage
  configured : List (SchemaType × String)
  engine : Engine
  present : Present

/-- The schemas that are loaded, with the disk and the engine's log. -/
structure SchemaState where
  disk : Disk
  log : EngineLog := {}
  loaded : List (SchemaType × Schema) := []
  cache : ComputeCache OverrideKey Schema

namespace Schemas

/-- Something done with schemas. -/
abbrev Work (α : Type) := ExceptT Failure (StateM SchemaState) α

/-- Where the disk lies. -/
def disk : Slot SchemaState Disk := ⟨SchemaState.disk, fun d s => { s with disk := d }⟩

/-- Where the cache lies. -/
def cache : Slot SchemaState (ComputeCache OverrideKey Schema) :=
  ⟨SchemaState.cache, fun c s => { s with cache := c }⟩

/-- Does something with the disk. -/
def onDisk {α : Type} (a : Disk.Action α) : Work α := disk.lift a

/-- The folder for schemas with overrides. -/
def overridesFolder : String := "schema-overrides"

/-- The path of the schema of a type. -/
def path (s : Schemas) (t : SchemaType) : Work String :=
  match s.configured.lookup t with
  | none => throw (.unavailable (.noSchema t.name))
  | some path => do
    if ← onDisk (s.storage.isAsset path) then return path
    else throw (.unavailable (.missingSchema t.name path))

/-- Compiles the content of a schema that lies at a path. -/
def compileContent (s : Schemas) (t : SchemaType) (content : Bytes) (path : String) :
    Work Schema := do
  let _ ← onDisk (s.storage.locate path)
  modify fun st => { st with log := { st.log with schemas := st.log.schemas + 1 } }
  match s.engine.compileSchema content with
  | .ok schema => return schema
  | .error f => throw (.compilation ⟨.schema t.name f.message, f.diagnostics⟩)

/-- Compiles a configured schema. -/
def compile (s : Schemas) (t : SchemaType) : Work Schema := do
  let path ← s.path t
  s.compileContent t (← onDisk (s.storage.read path)) path

/-- Compiles the configured schemas one after another; those that fail are told. -/
def compileEach (s : Schemas) : List (SchemaType × String) →
    Work (List (SchemaType × Schema) × List String)
  | [] => return ([], [])
  | (t, _) :: rest => do
    let compiled ← tryCatch ((s.compile t).map Except.ok) fun e =>
      if e.isOwn then return .error e else throw e
    let (loaded, errors) ← s.compileEach rest
    match compiled with
    | .ok schema => return ((t, schema) :: loaded, errors)
    | .error e => return (loaded, (t.name ++ ": " ++ e.message) :: errors)

/-- The name of this part of the program. -/
def component : String := "XSD Schemas"

/-- Compiles all configured schemas anew, and forgets everything kept before. -/
def reload (s : Schemas) : Work ReloadResult := do
  modify (cache.change ComputeCache.invalidateAll)
  let (loaded, errors) ← s.compileEach s.configured
  modify fun st => { st with loaded }
  return .ofCount component loaded.length 0 errors

/-- The loaded schema of a type. -/
def loaded? (t : SchemaType) : Work (Option Schema) := do return (← get).loaded.lookup t

/-! ## Overrides -/

/-- What is told about a schema with overrides. -/
def auditNote (s : Schemas) (t : SchemaType) (profile : Option String) (overrides : List Override)
    (r : OverrideReport) : String :=
  let bound (name : String) (value : Option String) : String :=
    (value.map fun v => ", " ++ name ++ "=" ++ v).getD ""
  let line (o : Override) : String :=
    "       - element: " ++ o.element ++ bound "minOccurs" o.minOccurs ++
      bound "maxOccurs" o.maxOccurs ++ " [" ++ r.status o ++ "]"
  "\n".intercalate
    (["XSD Override Metadata",
      "     Profile    : " ++ profile.getD "(ad-hoc)",
      "     SchemaType : " ++ t.name,
      "     GeneratedAt: " ++ s.present.universal,
      "     Matched    : " ++ toString r.matched ++ "/" ++ toString overrides.length] ++
     (if r.unmatched.isEmpty then []
      else ["     UNMATCHED  : " ++ Text.quotedList r.unmatched]) ++
     ["     Overrides:"] ++ overrides.map line) ++ "\n"

/-- Writes the file about a schema with overrides. The file system may refuse it. -/
def writeAudit (s : Schemas) (t : SchemaType) (profile : Option String)
    (overrides : List Override) (content : Bytes) (r : OverrideReport) : Work Unit :=
  let name := t.name ++ "_" ++ ((profile.map fun p => safeIdentifier (some p)).getD "adhoc") ++
    "_override.xsd"
  let note := s.auditNote t profile overrides r
  tryCatch
    (do
      let _ ← onDisk (s.storage.writeGenerated overridesFolder name (withLeadingComment content note)))
    fun e => if e.isSystem then return () else throw e

/-- The text of a configured schema with overrides applied. -/
def overridden (s : Schemas) (t : SchemaType) (overrides : List Override) :
    Work (String × Bytes × OverrideReport) := do
  let path ← s.path t
  let source ← onDisk (s.storage.read path)
  match Overridden.apply source overrides with
  | .ok (content, r) => return (path, content, r)
  | .error e => throw e

/-- Compiles a schema with overrides. -/
def compileOverridden (s : Schemas) (t : SchemaType) (overrides : List Override)
    (profile : Option String) : Work Schema := do
  let (path, content, r) ← s.overridden t overrides
  s.writeAudit t profile overrides content r
  s.compileContent t content path

/-- The schema of a type with overrides. -/
def custom (s : Schemas) (t : SchemaType) (overrides : List Override) (profile : Option String) :
    Work Schema :=
  let k := OverrideKey.of t.name overrides
  ComputeCache.obtain cache s.present.ticks k.told k
    (s.compileOverridden t overrides (profile.filter fun p => !p.isEmpty))

/-- Compiles a schema with overrides ahead of its use. Is it there now? -/
def precompile (s : Schemas) (type : String) (overrides : List Override)
    (profile : Option String) : Work Bool :=
  if overrides.isEmpty then return false
  else
    match SchemaType.ofName? type with
    | none => return false
    | some t => tryCatch ((s.custom t overrides profile).map fun _ => true) fun _ => return false

/-- The errors of a document against the schema of a type. -/
def validate (s : Schemas) (t : SchemaType) (document : Bytes) (overrides : List Override)
    (profile : Option String) : Work (List String) := do
  let schema ←
    if overrides.isEmpty then loaded? t else (s.custom t overrides profile).map some
  match schema with
  | none => throw (.unavailable (.schemaNotLoaded t.name))
  | some schema => return s.engine.validate schema document

end Schemas

end Conformity

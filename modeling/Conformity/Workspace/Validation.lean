import Conformity.Config.Basic
import Conformity.Finding
import Conformity.Impact.Warning
import Conformity.Suppression.Applied
import Conformity.Workspace.Basic

/-!
# Validation in a workspace

A document is validated against a schema, if one is asked for, and then against a rule-set. A profile
contributes overrides of the schema, assertions for the rule-set, and suppression rules; further
directives suppress for one request. A report has the errors against the schema and the findings of the
rule-set, as far as they are not suppressed. What a new version of a rule-set would do to the suppression
rules is told from the profiles as they are declared, so that an inherited rule is told once.
-/

namespace Conformity

/-! ## Reports -/

/-- What came of validating a document. -/
structure ValidationReport where
  ruleSet : RuleSetType
  schema : Option SchemaType := none
  profileName : Option String := none
  /-- The errors against the schema that are not suppressed. -/
  schemaErrors : List String := []
  /-- How many errors against the schema are suppressed. -/
  suppressedSchemaErrors : Nat := 0
  findings : Partition := {}
  deriving DecidableEq, Repr

namespace ValidationReport

/-- Is nothing wrong with the document, suppressed errors and findings aside? -/
def isValid (r : ValidationReport) : Bool := r.schemaErrors.isEmpty && r.findings.active.isEmpty

/-- A report as a record. -/
def toData (r : ValidationReport) : Data :=
  .ofEntries [("ruleSetType", .text r.ruleSet.name),
    ("schemaType", .ofText? (r.schema.map SchemaType.name)),
    ("profileName", .ofText? r.profileName), ("schemaErrors", .texts r.schemaErrors),
    ("suppressedSchemaErrors", .int r.suppressedSchemaErrors), ("findings", r.findings.toData)]

/-- A report as a record, with its verdict and the numbers of its findings. -/
def overview (r : ValidationReport) : Data :=
  .ofEntries [("ruleSetType", .text r.ruleSet.name),
    ("schemaType", .ofText? (r.schema.map SchemaType.name)),
    ("profileName", .ofText? r.profileName), ("schemaErrors", .texts r.schemaErrors),
    ("suppressedSchemaErrors", .int r.suppressedSchemaErrors), ("findings", r.findings.overview),
    ("isValid", .bool r.isValid)]

end ValidationReport

/-! ## Requests -/

namespace Workspace

/-- A document to be validated. -/
structure Request where
  document : Bytes
  ruleSet : RuleSetType
  schema : Option SchemaType := none
  profile : Option String := none
  /-- Directives that suppress findings. -/
  suppressions : List (Option String) := []
  subtype : Option String := none
  /-- The place of the document. -/
  place : Option String := none

/-- What a request asks to suppress: the types in play are those it is validated against. -/
def Request.suppression (r : Request) : Suppression.Request :=
  ⟨r.profile, r.suppressions, r.ruleSet.name :: (r.schema.map SchemaType.name).toList⟩

/-- Something that may meet a limit of patterns. -/
def withinLimits {α : Type} (x : Except PatternLimit α) : Work α :=
  match x with
  | .ok a => return a
  | .error l => throw (.ofLimit l)

/-- Divides findings by the rules in force. -/
def suppress (r : Suppression.Request) (findings : List Finding) : Work Partition := do
  withinLimits (Suppression.apply (← get).snapshot.matchersOf r findings)

/-- The errors of a document against the schema of a request: those that are left, and how many are
suppressed. -/
def schemaErrors (w : Workspace) (r : Request) : Work (List String × Nat) := do
  match r.schema with
  | none => return ([], 0)
  | some t =>
    let overrides := (← get).snapshot.overridesFor r.profile t.name
    let errors ← w.onSchemas fun s => s.validate t r.document overrides r.profile
    let left ← withinLimits
      (Suppression.applyTexts (← get).snapshot.matchersOf r.suppression errors)
    return (left, errors.length - left.length)

/-- The subtype of a request, or the configured one. -/
def subtypeOf (w : Workspace) (r : Request) : String :=
  (r.subtype.filter fun t => !t.isEmpty).getD w.config.compiler.defaultSubtype

/-- The raw findings of the rule-set of a request. -/
def findings (w : Workspace) (r : Request) : Work (List Finding) := do
  let assertions := (← get).snapshot.assertionsFor r.profile r.ruleSet.name
  w.onRuleSets fun s => s.run
    { type := r.ruleSet, document := r.document, subtype := some (w.subtypeOf r)
      assertions, profile := r.profile, base := r.place }

/-- Validates a document. -/
def validate (w : Workspace) (r : Request) : Work ValidationReport := do
  let (schemaErrors, suppressedSchemaErrors) ← w.schemaErrors r
  let findings ← suppress r.suppression (← w.findings r)
  return { ruleSet := r.ruleSet, schema := r.schema, profileName := r.profile
           schemaErrors, suppressedSchemaErrors, findings }

/-- The suppression rules that a new version of a rule-set would break. -/
def impact (w : Workspace) (t : RuleSetType) (newSource : Bytes) : Work (List Impact.Warning) := do
  let old ← w.onRuleSets fun s => s.source t
  let document ← w.onProfiles fun store => Registry.onDisk store.load
  match Impact.IdChange.ofSources (some old.content) (some newSource) with
  | .error e => throw (.ofRefusal e)
  | .ok change =>
    withinLimits (Impact.warnings w.config.impact (document.profiles.map (·.2)) change)

end Workspace

end Conformity

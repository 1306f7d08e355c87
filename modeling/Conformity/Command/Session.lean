import Conformity.Command.Basic
import Conformity.Config.File
import Conformity.Console.Grid
import Conformity.Data.Json
import Conformity.Data.Shown
import Conformity.Workspace.Validation

/-!
# Sessions

A session does what one command asks for. It prints lines, and ends with an exit code, or breaks off:
failures that the command does not expect, and texts that cannot be shown, are left to the caller.
-/

namespace Conformity

open Conformity.Path (Place)

/-- What a session finds. -/
structure Surroundings where
  /-- The folder in which the command is given. -/
  folder : Place
  engine : Engine
  present : Present

/-- The state of a session. -/
structure Session where
  state : WorkspaceState
  /-- The lines that were printed, the last one first. -/
  printed : List String := []

/-- How a session ends before its end. -/
inductive SessionEnd where
  | exit (code : Nat)
  | failure (e : Failure)
  | tag (e : Console.TagFault)
  deriving DecidableEq, Repr

namespace Session

/-- Something done in a session. -/
abbrev Work (α : Type) := ExceptT SessionEnd (StateM Session) α

/-- Where the state of the workspace lies. -/
def stateSlot : Slot Session WorkspaceState := ⟨Session.state, fun w s => { s with state := w }⟩

/-- Where the disk lies. -/
def diskSlot : Slot Session Disk :=
  ⟨fun s => s.state.disk, fun d s => { s with state := { s.state with disk := d } }⟩

/-- Something that may fail. -/
def attempt {α : Type} (a : ExceptT Failure (StateM Session) α) : Work α :=
  ExceptT.mk (a.run.map fun r => r.mapError .failure)

/-- Does something with the disk. -/
def onDisk {α : Type} (a : Disk.Action α) : Work α := attempt (diskSlot.lift a)

/-- Does something in the workspace. -/
def inWorkspace {α : Type} (a : Workspace.Work α) : Work α := attempt (stateSlot.lift a)

/-! ## Printing -/

/-- Prints lines as they are. -/
def printLines (lines : List String) : Work Unit :=
  modify fun s => { s with printed := lines.reverse ++ s.printed }

/-- Something that is to be shown. -/
def shown {α : Type} (x : Except Console.TagFault α) : Work α :=
  match x with
  | .ok a => return a
  | .error e => throw (.tag e)

/-- Prints a styled text. -/
def print (text : String) : Work Unit := do
  printLines ((Console.paragraph (← shown (Console.seen text))).map String.ofList)

/-- Prints a grid. -/
def printGrid (g : Console.Grid) : Work Unit := do
  printLines ((← shown g.lines).map String.ofList)

/-- Prints a value as JSON. -/
def printJson (d : Data) : Work Unit :=
  printLines ((Text.split '\n' (Json.pretty d).toList).map String.ofList)

/-- A text in a style. -/
def styled (style text : String) : String := "[" ++ style ++ "]" ++ text ++ "[/" ++ style ++ "]"

/-- Prints an error and ends the session. -/
def stop {α : Type} (message : String) : Work α := do
  print (styled "red" "Error:" ++ " " ++ message)
  throw (.exit 1)

/-- Does something of which some failures are expected: they are printed. -/
def expecting {α : Type} (isExpected : Failure → Bool) (a : Work α) : Work α :=
  tryCatch a fun e =>
    match e with
    | .failure f => if isExpected f then stop f.message else throw e
    | _ => throw e

/-- Does something that may fail in one of the library's own ways or because of a refused value. -/
def expectingOwn {α : Type} (a : Work α) : Work α := expecting (fun f => f.isOwn || f.isRefused) a

/-- A name that is asked for, out of a family. -/
def member {α : Type} (family : String) (ofName? : String → Option α) (name : String) : Work α :=
  match ofName? name with
  | some a => return a
  | none => throw (.failure (.refused (.notAmong family name)))

/-- The rule-set type that is asked for. -/
def ruleSetType (name : String) : Work RuleSetType := member "RuleSetType" RuleSetType.ofName? name

/-! ## Beginning -/

/-- The workspace of a configuration. -/
def workspace (around : Surroundings) (config : Option String) : Work Workspace := do
  let c ← expecting Failure.isRefused (onDisk (Config.load around.folder config))
  return ⟨⟨Path.resolved around.folder c.assets.root, c.assets.generatedDir⟩, c, around.engine,
    around.present⟩

/-- Reloads everything. -/
def reloadAll (w : Workspace) : Work (List ReloadResult) :=
  inWorkspace (ExceptT.mk (w.reload.map .ok))

/-- Reloads the profiles. -/
def reloadProfiles (w : Workspace) : Work ReloadResult :=
  inWorkspace (w.onProfiles Registry.reload)

/-- Ends the session if there is no file with a name. -/
def expectFile (around : Surroundings) (path missing : String) : Work Unit := do
  if ← onDisk (Disk.isFile (Path.resolved around.folder path)) then return ()
  else stop (missing ++ ": " ++ Path.tidy path)

/-- The content of a file that is named. -/
def readFile (around : Surroundings) (path : String) : Work Bytes := do
  match ← onDisk (Disk.look (Path.resolved around.folder path)) with
  | some (.file content) => return content
  | _ => throw (.failure (.system .notFound))

/-! ## Jobs -/

/-- The style of a status. -/
def statusStyle : ReloadStatus → String
  | .ok => "green"
  | .partly => "yellow"
  | .failed => "red"
  | .skipped => "dim"

/-- Reloads everything and shows what came of it. -/
def runReload (w : Workspace) : Work Unit := do
  let results ← reloadAll w
  printGrid {
    title := "Reload"
    columns := [⟨"Component", false⟩, ⟨"Status", false⟩, ⟨"Loaded", true⟩, ⟨"Time (ms)", true⟩,
      ⟨"Errors", false⟩]
    rows := results.map fun r =>
      [r.component, styled (statusStyle r.status) r.status.name, toString r.loaded,
        toString r.elapsed, "\n".intercalate r.errors] }
  if !results.all ReloadResult.isOk then throw (.exit 1)

/-- Compiles a rule-set. -/
def runCompile (around : Surroundings) (w : Workspace) (ruleSet : String) (out : Option String) :
    Work Unit := do
  let _ ← reloadProfiles w
  let a ← expectingOwn do
    let t ← ruleSetType ruleSet
    inWorkspace (w.onRuleSets fun s => s.compile t)
  let parameters := if a.parameters.isEmpty then "-" else ", ".intercalate a.parameters
  print (styled "green" "OK" ++ " " ++ a.name ++ " compiled (parameters: " ++ parameters ++ ")")
  match out with
  | none => return ()
  | some path =>
    onDisk (Disk.writeFile (Path.resolved around.folder path) a.generated)
    print (styled "blue" "Generated stylesheet:" ++ " " ++ Path.tidy path)

/-- Lists the profiles. -/
def runProfiles (w : Workspace) : Work Unit := do
  let result ← reloadProfiles w
  result.errors.forM fun e => print (styled "yellow" "WARN" ++ " " ++ e)
  let profiles := (← get).state.snapshot.profiles
  let sorted := (Text.sorted profiles.names).filterMap fun name =>
    (profiles.get? name).map fun p => (name, p)
  let total {α : Type} (t : Table (List α)) : String := toString (t.flatMap fun e => e.2).length
  printGrid {
    title := "Validation Profiles"
    columns := [⟨"Name", false⟩, ⟨"Extends", false⟩, ⟨"Rules", true⟩, ⟨"Overrides", true⟩,
      ⟨"Assertions", true⟩, ⟨"Description", false⟩]
    rows := sorted.map fun (name, p) =>
      [name, (p.extends?).getD "-", toString p.rules.length, total p.overrides, total p.assertions,
        p.description] }

/-- Shows a profile with what it inherits. -/
def runProfile (w : Workspace) (name : String) : Work Unit := do
  let _ ← reloadProfiles w
  match (← get).state.snapshot.profile? (some name) with
  | none => stop ("Profile '" ++ name ++ "' not found.")
  | some p =>
    print (styled "bold" p.name ++ " " ++ p.description)
    match p.extends? with
    | some parent => print (styled "dim" ("extends " ++ parent))
    | none => pure ()
    printGrid {
      title := "Suppression rules"
      columns := [⟨"Match", false⟩, ⟨"Pattern", false⟩, ⟨"Scope", false⟩, ⟨"Description", false⟩]
      rows := p.rules.map fun r =>
        [r.mode.name, r.pattern, if r.isGlobal then "*" else ", ".intercalate r.scope,
          r.description.getD ""] }
    if !p.overrides.isEmpty then
      printGrid {
        title := "XSD overrides"
        columns := [⟨"Schema", false⟩, ⟨"Element", false⟩, ⟨"minOccurs", false⟩,
          ⟨"maxOccurs", false⟩]
        rows := p.overrides.flatMap fun (type, os) => os.map fun o =>
          [type, o.element, o.minOccurs.getD "", o.maxOccurs.getD ""] }
    if !p.assertions.isEmpty then
      printGrid {
        title := "Custom assertions"
        columns := [⟨"Rule-set", false⟩, ⟨"Id", false⟩, ⟨"Context", false⟩, ⟨"Test", false⟩]
        rows := p.assertions.flatMap fun (type, as) => as.map fun a =>
          [type, a.id.getD "", a.context.getD "", a.test.getD ""] }

/-- What a finding is told under: its rule, or a hyphen if it has none. -/
def ruleOf (f : Finding) : String := (f.ruleId.filter fun id => !id.isEmpty).getD "-"

/-- Prints a report. -/
def printReport (r : ValidationReport) : Work Unit := do
  r.schemaErrors.forM fun e => print (styled "red" "SCHEMA" ++ " " ++ e)
  r.findings.active.forM fun f => print (styled "red" (ruleOf f) ++ " " ++ f.message)
  r.findings.suppressed.forM fun f =>
    print (styled "dim" ("suppressed " ++ ruleOf f ++ ": " ++ f.message))
  let summary := toString r.schemaErrors.length ++ " schema error(s), " ++
    toString r.findings.active.length ++ " finding(s), " ++
    toString (r.findings.suppressedCount + r.suppressedSchemaErrors) ++ " suppressed"
  print ((if r.isValid then styled "green" "OK" else styled "red" "INVALID") ++ " " ++ summary)

/-- Validates a document. -/
def runValidate (around : Surroundings) (config : Option String) (o : ValidationOrder) :
    Work Unit := do
  expectFile around o.document "Document not found"
  let w ← workspace around config
  (← reloadAll w).forM fun r =>
    if r.isOk then return ()
    else
      print (styled "yellow" "WARN" ++ " " ++ r.component ++ ": " ++ r.status.name ++ " " ++
        (Data.texts r.errors).shown)
  let report ← expectingOwn do
    let document ← readFile around o.document
    let ruleSet ← ruleSetType o.ruleSet
    let schema ← (o.schema.filter fun s => !s.isEmpty).mapM
      (member "SchemaType" SchemaType.ofName?)
    inWorkspace (w.validate
      { document, ruleSet, schema, profile := o.profile, suppressions := o.suppressions.map some
        subtype := o.subtype
        place := some (Path.text (Path.resolved around.folder o.document)) })
  if o.json then printJson report.toData else printReport report
  if !report.isValid then throw (.exit 1)

/-- Shows the suppression rules that a new version of a rule-set would break. -/
def runImpact (around : Surroundings) (config : Option String) (ruleSet source : String)
    (json : Bool) : Work Unit := do
  expectFile around source "File not found"
  let w ← workspace around config
  let content ← readFile around source
  let warnings ← expectingOwn do
    let t ← ruleSetType ruleSet
    inWorkspace (w.impact t content)
  if json then printJson (.ofList (warnings.map Impact.Warning.toData))
  else if warnings.isEmpty then
    print (styled "green" "OK" ++ " No suppression rule is affected")
  else
    printGrid {
      title := "Suppression impact: " ++ ruleSet
      columns := [⟨"Severity", false⟩, ⟨"Profile", false⟩, ⟨"Pattern", false⟩,
        ⟨"Removed id", false⟩, ⟨"Possible new id", false⟩]
      rows := warnings.map fun a =>
        [styled (if a.successor.isSome then "yellow" else "red") a.severity, a.profileName,
          a.pattern, a.ruleId, a.successor.getD ""] }

/-- Does a job. -/
def runJob (around : Surroundings) (config : Option String) : Job → Work Unit
  | .reload => do runReload (← workspace around config)
  | .compile ruleSet out => do runCompile around (← workspace around config) ruleSet out
  | .profiles => do runProfiles (← workspace around config)
  | .profile name => do runProfile (← workspace around config) name
  | .validate order => runValidate around config order
  | .impact ruleSet source json => runImpact around config ruleSet source json

/-! ## Commands -/

/-- The version of the program. -/
def version : String := "0.1.0"

/-- What the program tells about its use. -/
def usage : List String :=
  ["Usage: schemax [OPTIONS] COMMAND [ARGS]...", "",
    "Validation rule compilation and suppression engine.", "", "Commands:"] ++
    Command.jobForms.map fun (name, form) => "  " ++ " ".intercalate (name :: form.words)

/-- Does what a command asks for. -/
def run (around : Surroundings) : Command → Work Unit
  | .version => print ("schemax version " ++ version)
  | .help => printLines usage
  | .perform job config => runJob around config job

/-- What came of a session. -/
structure Outcome where
  code : Nat
  /-- The lines that were printed. -/
  lines : List String := []
  /-- What the session broke off with. -/
  broken : Option SessionEnd := none
  usage : Option UsageFault := none
  disk : Disk

/-- Does what arguments ask for, on a disk. -/
def ofArguments (around : Surroundings) (disk : Disk) (arguments : List String) : Outcome :=
  match Command.ofArguments arguments with
  | .error e => { code := 2, usage := some e, disk }
  | .ok command =>
    let (r, s) := (run around command).run.run ⟨Workspace.start disk, []⟩
    let (code, broken) : Nat × Option SessionEnd :=
      match r with
      | .ok _ => (0, none)
      | .error (.exit code) => (code, none)
      | .error e => (1, some e)
    { code, lines := s.printed.reverse, broken, disk := s.state.disk }

end Session

end Conformity

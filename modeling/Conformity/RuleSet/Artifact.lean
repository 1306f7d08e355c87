import Conformity.Config.Basic
import Conformity.Engine.Basic
import Conformity.RuleSet.Parameters

/-!
# Compiled rule-sets

A rule-set source passes through the three stages of the engine. The stylesheet that comes out gets its
run-time parameters and is compiled. A stylesheet that comes compiled is taken as it is.
-/

namespace Conformity

/-- A rule-set that is ready to be run. -/
structure Artifact where
  name : String
  stylesheet : Stylesheet
  /-- The stylesheet as it was generated. -/
  generated : Bytes
  /-- The names that can be set at run time, in order. -/
  parameters : List String := []
  deriving DecidableEq, Repr

namespace Artifact

/-- Something done with an engine, which may end with a compilation fault. -/
abbrev Work (α : Type) := ExceptT CompilationFault (StateM EngineLog) α

/-- The parameters of a stage. Only the last stage has any. -/
def stageParameters (c : Config.Compiler) : Stage → List (String × String)
  | .message =>
    [("phase", c.phase), ("allow-foreign", if c.allowForeign then "true" else "false")]
  | _ => []

/-- Sends a document through a stage. -/
def pass (e : Engine) (c : Config.Compiler) (base : Option String) (name : String) (stage : Stage)
    (document : Bytes) : Work Bytes := do
  let run : Run := ⟨some stage, stageParameters c stage, base⟩
  modify fun log => { log with runs := run :: log.runs }
  match e.pass stage run document with
  | .ok document => return document
  | .error f =>
    throw ⟨.stage name stage f.message, f.diagnostics.map (Diagnostic.restaged stage.name)⟩

/-- The stylesheet that a rule-set source generates. -/
def generate (e : Engine) (c : Config.Compiler) (source : RuleSource) (name : String) : Work Bytes :=
  Stage.all.foldlM (fun document stage => pass e c source.base name stage document) source.content

/-- Compiles a stylesheet. -/
def compileStylesheet (e : Engine) (content : Bytes) (fault : EngineFault → CompilationFault) :
    Work Stylesheet := do
  modify fun log => { log with stylesheets := log.stylesheets + 1 }
  match e.compile content with
  | .ok s => return s
  | .error f => throw (fault f)

/-- A part of the work that needs no engine. -/
def pure? {α : Type} : Except CompilationFault α → Work α
  | .ok a => return a
  | .error e => throw e

/-- Compiles a rule-set source. -/
def compile (e : Engine) (c : Config.Compiler) (source : RuleSource) (name : String) :
    Work Artifact := do
  let generated ← generate e c source name
  let bindings ← pure? (Parameters.bindings source.content)
  let (generated, parameters) ← pure? (Parameters.expose generated c.parameterAllowList bindings)
  let stylesheet ← compileStylesheet e generated fun f =>
    ⟨.generated name f.message, f.diagnostics.map (Diagnostic.restaged "compile")⟩
  return { name, stylesheet, generated, parameters }

/-- Takes a stylesheet that comes compiled. -/
def load (e : Engine) (content : Bytes) (name : String) : Work Artifact := do
  let stylesheet ← compileStylesheet e content fun f =>
    ⟨.precompiled name f.message, f.diagnostics⟩
  return { name, stylesheet, generated := content }

/-- Can a name be set at run time? -/
def accepts (a : Artifact) (parameter : String) : Bool := a.parameters.contains parameter

/-- An artifact as a record. -/
def toData (bytes : Bytes → Data) (a : Artifact) : Data :=
  .ofEntries [("name", .text a.name), ("generated", bytes a.generated),
    ("parameters", .texts a.parameters)]

end Artifact

end Conformity

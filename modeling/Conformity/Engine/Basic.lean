import Conformity.Diagnostic.Basic
import Conformity.Text.Utf8

/-!
# Engines

An engine transforms documents and checks them against schemas. It is given from outside: the library
only relies on what is asked of it here. A rule-set source passes through three stages of the engine;
what comes out is compiled and then run on documents. An executable is known by the source it was
compiled from.
-/

namespace Conformity

/-- The stages that a rule-set source passes through, in this order. -/
inductive Stage where
  /-- Brings in what the source includes. -/
  | dispatch
  /-- Expands abstract templates. -/
  | abstract
  /-- Generates the stylesheet. -/
  | message
  deriving DecidableEq, Repr

namespace Stage

/-- All stages in order. -/
def all : List Stage := [dispatch, .abstract, message]

/-- The name of a stage. -/
def name : Stage → String
  | dispatch => "dispatch"
  | .abstract => "abstract"
  | message => "message"

end Stage

/-- What an engine says when it rejects a source or fails at its work. -/
structure EngineFault where
  message : String
  diagnostics : List Diagnostic := []
  deriving DecidableEq, Repr

/-- A compiled stylesheet. -/
structure Stylesheet where
  source : Bytes
  deriving DecidableEq, Repr

/-- A compiled schema. -/
structure Schema where
  source : Bytes
  deriving DecidableEq, Repr

/-- One transformation: by a stage of the engine or by a stylesheet, with parameters, and with the
place that references are looked up from. -/
structure Run where
  stage : Option Stage := none
  parameters : List (String × String) := []
  base : Option String := none
  deriving DecidableEq, Repr

/-- What an engine can do. -/
structure Engine where
  /-- Transforms a document by a stage. -/
  pass : Stage → Run → Bytes → Except EngineFault Bytes
  /-- Compiles a stylesheet. -/
  compile : Bytes → Except EngineFault Stylesheet
  /-- Transforms a document by a stylesheet. -/
  apply : Stylesheet → Run → Bytes → Except EngineFault Bytes
  /-- Compiles a schema. -/
  compileSchema : Bytes → Except EngineFault Schema
  /-- The errors of a document against a schema. -/
  validate : Schema → Bytes → List String

/-- What an engine has done so far, last run first. -/
structure EngineLog where
  runs : List Run := []
  stylesheets : Nat := 0
  schemas : Nat := 0
  deriving DecidableEq, Repr

/-- A run as a record. -/
def Run.toData (r : Run) : Data :=
  .ofEntries [("stage", .ofText? (r.stage.map Stage.name)),
    ("parameters", .ofEntries (r.parameters.map fun p => (p.1, .text p.2))),
    ("base", .ofText? r.base)]

end Conformity

import Conformity.Diagnostic.Readable
import Conformity.Engine.Basic
import Conformity.Markup.Faithful
import Conformity.Markup.Printed
import Conformity.RuleSet.Parameters
import Conformity.Schema.Overridden

/-!
# Around a processor

What happens around the work of a markup processor: documents are read before it and written after it,
its log is collected into diagnostics, and its messages about schemas are made readable. Of the work
itself only two checks are known: a stylesheet must have the root of one, and a schema must have the
root of one and declare the elements that it refers to.
-/

namespace Conformity.Processor

open Markup

/-- What a document is read as. -/
inductive Role where
  | document
  | stylesheet
  | schema
  deriving DecidableEq, Repr

/-- The name of a role. -/
def Role.name : Role → String
  | document => "document"
  | stylesheet => "stylesheet"
  | schema => "schema"

/-- Reads a document in a role. -/
def read (role : Role) (bs : Bytes) : Except EngineFault Document :=
  match Faithful.read? bs with
  | some d => .ok d
  | none => .error { message := "Malformed " ++ role.name }

/-- What a transformation makes of a document. -/
inductive Output where
  | document (d : Document)
  | text (bs : Bytes)

/-- A transformation that stopped, with its log. -/
structure Stop where
  message : String
  log : List LogEntry := []

/-- Transforms a document. -/
def run (transform : Document → Except Stop Output) (bs : Bytes) : Except EngineFault Bytes := do
  match transform (← read .document bs) with
  | .ok (.document d) => return d.bytes
  | .ok (.text bs) => return bs
  | .error s =>
    throw ⟨"Transformation failed: " ++ s.message, s.log.map (Diagnostic.ofLogEntry none)⟩

/-- The errors that a schema's log reports about a document; nothing if the document is malformed. -/
def validate? (log : List (String × Int)) (bs : Bytes) : Option (List String) :=
  match read .document bs with
  | .ok _ => some (log.map fun e => SchemaMessage.readable e.1 (some e.2))
  | .error _ => none

/-- Is this the root of a stylesheet, or an element that stands for one? -/
def isStylesheet : Node → Bool
  | .element name _ attributes _ =>
    name.isIn stylesheetSpace "stylesheet" || name.isIn stylesheetSpace "transform" ||
      attributes.any fun a => a.name.isIn stylesheetSpace "version"
  | _ => false

/-- Compiles a stylesheet. -/
def compile (bs : Bytes) : Except EngineFault Stylesheet := do
  let d ← read .stylesheet bs
  if isStylesheet d.root then return ⟨bs⟩
  else throw { message := "Stylesheet compilation failed" }

/-! ## Schemas -/

/-- A name with its namespace. -/
abbrev Expanded := Option String × String

/-- The expanded name that a reference stands for in a scope; nothing if its qualifier is not
declared. -/
def expanded? (scope : Scope) (reference : String) : Option Expanded :=
  match Text.split ':' reference.toList with
  | [base] => some (scope.find? none, String.ofList base)
  | [q, base] => (scope.find? (some (String.ofList q))).map fun s => (some s, String.ofList base)
  | _ => none

mutual

/-- Are all elements that a node refers to among those declared? -/
def isResolved (declared : List Expanded) (scope : Scope) : Node → Bool
  | .element name ds attributes children =>
    (match Overridden.reference? name attributes with
      | some r => (expanded? (ds.reverse ++ scope) r).any declared.contains
      | none => true) &&
      areResolved declared (ds.reverse ++ scope) children
  | _ => true

/-- Are all elements that nodes refer to among those declared? -/
def areResolved (declared : List Expanded) (scope : Scope) : List Node → Bool
  | [] => true
  | n :: ns => isResolved declared scope n && areResolved declared scope ns

end

/-- The element that a child of a schema declares. -/
def declaration? (target : Option String) : Node → Option Expanded
  | .element name _ attributes _ =>
    if name.isIn schemaSpace "element" then
      (Node.attribute? "name" attributes).map fun n => (target, n)
    else none
  | _ => none

/-- Is this the root of a schema that declares what it refers to? -/
def isSchema : Node → Bool
  | .element name ds attributes children =>
    let target := Node.attribute? "targetNamespace" attributes
    let declared := children.filterMap (declaration? target)
    name.isIn schemaSpace "schema" && isResolved declared [] (.element name ds attributes children)
  | _ => false

/-- Compiles a schema. -/
def compileSchema (bs : Bytes) : Except EngineFault Schema := do
  let d ← read .schema bs
  if isSchema d.root then return ⟨bs⟩
  else throw { message := "Schema compilation failed" }

end Conformity.Processor

import Conformity.Failure
import Conformity.Markup.Edit
import Conformity.Markup.Faithful
import Conformity.Markup.Printed
import Conformity.Override
import Conformity.Text.Order

/-!
# Schemas with overrides

An override sets the occurrence bounds of all references to one element in a schema. Of several
overrides for an element the last one counts. Overrides whose element is nowhere referred to are
reported.
-/

namespace Conformity

open Markup

/-- The namespace of schemas. -/
def schemaSpace : String := "http://www.w3.org/2001/XMLSchema"

/-- What became of overrides. -/
structure OverrideReport where
  /-- How many elements with overrides are referred to. -/
  matched : Nat
  /-- The elements that are not, as often as they have overrides. -/
  unmatched : List String
  deriving DecidableEq, Repr

/-- What became of one override. -/
def OverrideReport.status (r : OverrideReport) (o : Override) : String :=
  if r.unmatched.contains o.element then "NOT FOUND" else "OK"

/-- What became of overrides, as a record. -/
def OverrideReport.toData (os : List Override) (r : OverrideReport) : Data :=
  .ofEntries [("matched", .int r.matched), ("unmatched", .texts r.unmatched),
    ("status", .texts (os.map r.status))]

namespace Overridden

/-- The override that counts for an element. -/
def last? (overrides : List Override) (element : String) : Option Override :=
  overrides.reverse.find? fun o => o.element == element

/-- The element that a node of a schema refers to. -/
def reference? (name : Name) (attributes : List Attribute) : Option String :=
  if name.isIn schemaSpace "element" then Node.attribute? "ref" attributes else none

/-- An attribute set to a value, if there is a value. -/
def setBound (base : String) (value : Option String) (attributes : List Attribute) :
    Except Unwritable (List Attribute) :=
  match value with
  | none => .ok attributes
  | some v => (writable v).map fun v => Node.setAttribute base v attributes

/-- The attributes of an element with the override for it applied. -/
def overriddenAttributes (overrides : List Override) (name : Name) (attributes : List Attribute) :
    Except Unwritable (List Attribute) :=
  match (reference? name attributes).bind (last? overrides) with
  | none => .ok attributes
  | some o => do setBound "maxOccurs" o.maxOccurs (← setBound "minOccurs" o.minOccurs attributes)

mutual

/-- A node with overrides applied to it and everything inside. -/
def node (overrides : List Override) : Node → Except Unwritable Node
  | .element name declared attributes children => do
    let attributes ← overriddenAttributes overrides name attributes
    return .element name declared attributes (← nodes overrides children)
  | n => .ok n

/-- Nodes with overrides applied. -/
def nodes (overrides : List Override) : List Node → Except Unwritable (List Node)
  | [] => .ok []
  | n :: ns => do
    let n ← node overrides n
    return n :: (← nodes overrides ns)

end

/-- The elements that a tree refers to. -/
def references (root : Node) : List String :=
  root.elements.filterMap fun n =>
    match n with
    | .element name _ attributes _ => reference? name attributes
    | _ => none

/-- What becomes of overrides in a tree. -/
def report (overrides : List Override) (root : Node) : OverrideReport :=
  let found := references root
  let elements := (overrides.map (·.element)).eraseDups
  ⟨(elements.filter found.contains).length,
    (overrides.map (·.element)).filter fun e => !found.contains e⟩

/-- A schema with overrides applied. -/
def apply (source : Bytes) (overrides : List Override) : Except Failure (Bytes × OverrideReport) :=
  match Faithful.read? source with
  | none => .error (.compilation { cause := .malformedSchema })
  | some d =>
    match node overrides d.root with
    | .ok root => .ok ({ d with root }.bytes, report overrides d.root)
    | .error _ => .error (.refused .unwritable)

end Overridden

/-- What a schema with overrides is kept under: its type, and the overrides in order. -/
structure OverrideKey where
  type : String
  overrides : List String
  deriving DecidableEq, Repr

namespace OverrideKey

/-- The key of overrides for a schema type. -/
def of (type : String) (overrides : List Override) : OverrideKey :=
  ⟨type, Text.sorted (overrides.map Override.text)⟩

/-- A key as a record. -/
def toData (k : OverrideKey) : Data :=
  .ofEntries [("type", .text k.type), ("overrides", .texts k.overrides)]

end OverrideKey

end Conformity

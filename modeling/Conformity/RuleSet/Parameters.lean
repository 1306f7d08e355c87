import Conformity.Failure
import Conformity.Injection
import Conformity.Text.Order

/-!
# Run-time parameters

A generated stylesheet binds names at its top level. Exactly those on an allow-list can be set at run
time: an allowed variable becomes a parameter, and a parameter that comes from a binding of the rule
source and is not allowed becomes a variable. Nothing below the top level changes.
-/

namespace Conformity

open Markup

/-- The namespace of stylesheets. -/
def stylesheetSpace : String := "http://www.w3.org/1999/XSL/Transform"

namespace Parameters

/-- The non-empty name of a top-level binding of a rule source. -/
def binding? : Node → Option String
  | .element name _ attributes _ =>
    if name.isIn ruleSpace "let" then
      (Node.attribute? "name" attributes).filter fun s => !s.isEmpty
    else none
  | _ => none

/-- The children of a node. -/
def children : Node → List Node
  | .element _ _ _ ns => ns
  | _ => []

/-- The names bound at the top level of a rule source, in order. -/
def bindings (source : Bytes) : Except CompilationFault (List String) :=
  match Faithful.read? source with
  | none => .error { cause := .malformedRuleSource }
  | some d => .ok (Text.sortedSet ((children d.root).filterMap binding?))

/-- Is a node an element of the stylesheet language with a base and a name among some? -/
def isNamed (base : String) (names : List String) : Node → Bool
  | .element name _ attributes _ =>
    name.isIn stylesheetSpace base && (Node.attribute? "name" attributes).any names.contains
  | _ => false

/-- The name that a top-level node is exposed under. -/
def exposed? (allowed : List String) (n : Node) : Option String :=
  if isNamed "variable" allowed n || isNamed "param" allowed n then
    match n with
    | .element _ _ attributes _ => Node.attribute? "name" attributes
    | _ => none
  else none

/-- What a top-level node has to become, if it has to change. -/
def newBase? (allowed bindings : List String) (n : Node) : Option String :=
  if isNamed "variable" allowed n then some "param"
  else if isNamed "param" allowed n then none
  else if isNamed "param" bindings n then some "variable"
  else none

/-- A top-level node as it has to be, below elements with declarations. -/
def rebound (allowed bindings : List String) (around : List (List SpaceDeclaration)) (n : Node) :
    Node :=
  match newBase? allowed bindings n with
  | some base => n.rename stylesheetSpace base around
  | none => n

/-- A root whose children are as they have to be. -/
def reboundRoot (allowed bindings : List String) : Node → Node
  | .element name declared attributes children =>
    .element name declared attributes (children.map (rebound allowed bindings [declared]))
  | n => n

/-- A stylesheet with exactly the allowed names settable, and those of them that it has. A stylesheet
that need not change keeps its bytes. -/
def expose (generated : Bytes) (allowed bindings : List String) :
    Except CompilationFault (Bytes × List String) :=
  if allowed.isEmpty && bindings.isEmpty then .ok (generated, [])
  else
    match Faithful.read? generated with
    | none => .error { cause := .malformedStylesheet }
    | some d =>
      let exposed := Text.sortedSet ((children d.root).filterMap (exposed? allowed))
      if (children d.root).any fun n => (newBase? allowed bindings n).isSome then
        .ok ({ d with root := reboundRoot allowed bindings d.root }.bytes, exposed)
      else .ok (generated, exposed)

end Parameters

end Conformity

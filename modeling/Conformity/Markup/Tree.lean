import Conformity.Markup.Lexical

/-!
# Document trees

A document whose names are resolved. A name has a namespace, the qualifier it is written with and a
base; two names are the same name if namespace and base agree. An element knows the namespaces declared
at it.
-/

namespace Conformity.Markup

/-- A resolved name. -/
structure Name where
  space : Option String := none
  qualifier : Option String := none
  base : String
  deriving DecidableEq, Repr

namespace Name

/-- Is this the name `base` in a namespace? -/
def isIn (space base : String) (n : Name) : Bool := n.space == some space && n.base == base

/-- Is this the name `base` in no namespace? -/
def isPlain (base : String) (n : Name) : Bool := n.space.isNone && n.base == base

/-- The name as it is written. -/
def written (n : Name) : String :=
  match n.qualifier with
  | some q => q ++ ":" ++ n.base
  | none => n.base

end Name

/-- A namespace declared at an element: for names with a qualifier, or for those without. -/
structure SpaceDeclaration where
  qualifier : Option String
  space : String
  deriving DecidableEq, Repr

/-- An attribute. A value that refers to entities is also kept in the form in which it is written. -/
structure Attribute where
  name : Name
  value : String
  pieces : Option (List Piece) := none
  deriving DecidableEq, Repr

/-- A node of a tree. -/
inductive Node where
  | text (content : String)
  | entity (name : String)
  | comment (content : String)
  | instruction (target : String) (data : Option String)
  | element (name : Name) (declared : List SpaceDeclaration) (attributes : List Attribute)
      (children : List Node)
  deriving Repr

namespace Node

/-- The value of an attribute in no namespace. -/
def attribute? (base : String) (attributes : List Attribute) : Option String :=
  (attributes.find? fun a => a.name.isPlain base).map (·.value)

/-- Sets an attribute in no namespace: in place if it is there, behind the others otherwise. -/
def setAttribute (base value : String) : List Attribute → List Attribute
  | [] => [{ name := { base }, value }]
  | a :: as =>
    if a.name.isPlain base then { a with value, pieces := none } :: as
    else a :: setAttribute base value as

mutual

/-- All text inside a node. -/
def textContent : Node → String
  | text s => s
  | element _ _ _ children => textOfAll children
  | _ => ""

/-- All text inside several nodes. -/
def textOfAll : List Node → String
  | [] => ""
  | n :: ns => textContent n ++ textOfAll ns

end

mutual

/-- The element and all elements inside it, in the order of their start tags. -/
def elements : Node → List Node
  | element n d a children => element n d a children :: elementsOfAll children
  | _ => []

/-- All elements of several nodes, in the order of their start tags. -/
def elementsOfAll : List Node → List Node
  | [] => []
  | n :: ns => elements n ++ elementsOfAll ns

end

end Node

/-- A document. -/
structure Document where
  version : String := "1.0"
  /-- Comments and instructions before the document type. -/
  beforeType : List Node := []
  doctype : Option Doctype := none
  beforeRoot : List Node := []
  root : Node
  afterRoot : List Node := []

end Conformity.Markup

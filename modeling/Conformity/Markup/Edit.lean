import Conformity.Markup.Resolved

/-!
# Changing documents

A new element, or one with a new name, gets a qualifier that stands for its namespace where it is put;
if there is none, a new qualifier is declared. Texts that are put into a document must be made of
characters that may stand in a document.
-/

namespace Conformity.Markup

/-- A text that cannot be put into a document. -/
structure Unwritable where
  text : String
  deriving DecidableEq, Repr

/-- The wording of the fault. -/
def Unwritable.message (_ : Unwritable) : String :=
  "All strings must be XML compatible: Unicode or ASCII, no NULL bytes or control characters"

/-- Can a text be put into a document? -/
def isWritable (s : String) : Bool := s.toList.all isDocumentChar

/-- A text that can be put into a document. -/
def writable (s : String) : Except Unwritable String := if isWritable s then .ok s else .error ⟨s⟩

/-- The qualifier that stands for a namespace where declarations are in force, innermost element first;
those in `hidden` are declared anew further inside. -/
def qualifierAmong? (space : String) (hidden : List (Option String)) :
    List (List SpaceDeclaration) → Option (Option String)
  | [] => none
  | ds :: outer =>
    match ds.find? fun d => d.space == space && !hidden.contains d.qualifier with
    | some d => some d.qualifier
    | none => qualifierAmong? space (ds.map (·.qualifier) ++ hidden) outer

/-- The first of `ns0`, `ns1`, … that no declaration uses; `fuel` is at least the number of
declarations. -/
def freshQualifier (used : List (Option String)) : (fuel : Nat) → (n : Nat) → String
  | 0, n => "ns" ++ toString n
  | fuel + 1, n =>
    let q := "ns" ++ toString n
    if used.contains (some q) then freshQualifier used fuel (n + 1) else q

/-- The qualifier for a namespace below elements with declarations, and what has to be declared for
it. -/
def qualifierFor (space : String) (around : List (List SpaceDeclaration)) :
    Option String × List SpaceDeclaration :=
  match qualifierAmong? space [] around with
  | some q => (q, [])
  | none =>
    let used := around.flatten.map (·.qualifier)
    let q := freshQualifier used used.length 0
    (some q, [⟨some q, space⟩])

namespace Node

/-- Adds nodes behind the last child of an element. -/
def append (new : List Node) : Node → Node
  | element name declared attributes children =>
    element name declared attributes (children ++ new)
  | n => n

/-- The namespaces declared at a node. -/
def declared : Node → List SpaceDeclaration
  | element _ ds _ _ => ds
  | _ => []

/-- An element with a new base for its name, in the same or another namespace, below elements with
declarations. -/
def rename (space base : String) (around : List (List SpaceDeclaration)) : Node → Node
  | element _ ds attributes children =>
    let (q, new) := qualifierFor space (ds :: around)
    element ⟨some space, q, base⟩ (ds ++ new) attributes children
  | n => n

end Node

end Conformity.Markup

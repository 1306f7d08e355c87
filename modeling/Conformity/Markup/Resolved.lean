import Conformity.Markup.Tree

/-!
# Resolving names

A written name is a qualifier and a base, or a base alone. Qualifiers stand for the namespaces declared
around them; attributes without a qualifier are in no namespace. This module holds what both ways of
reading a document share: splitting names, the namespaces in scope, and what the document type says
about attributes.
-/

namespace Conformity.Markup

/-- The namespace of the qualifier `xml`. -/
def xmlSpace : String := "http://www.w3.org/XML/1998/namespace"

/-- The namespace of the qualifier `xmlns`. -/
def xmlnsSpace : String := "http://www.w3.org/2000/xmlns/"

/-- A qualifier and a base. -/
structure QName where
  qualifier : Option String
  base : String
  deriving DecidableEq, Repr

/-- Splits a written name; nothing if a colon stands at a wrong place. -/
def QName.ofWritten? (edition : NameEdition) (name : String) : Option QName :=
  let isBase (cs : List Char) : Bool := (cs.head?).any edition.isStart
  match Text.split ':' name.toList with
  | [base] => if isBase base then some ⟨none, String.ofList base⟩ else none
  | [qualifier, base] =>
    if isBase qualifier && isBase base then
      some ⟨some (String.ofList qualifier), String.ofList base⟩
    else none
  | _ => none

/-- The qualifier that an attribute declares a namespace for; `none` inside for names without one. -/
def QName.declares? (q : QName) : Option (Option String) :=
  match q.qualifier with
  | none => if q.base == "xmlns" then some none else none
  | some p => if p == "xmlns" then some (some q.base) else none

/-- The namespaces in scope, innermost declaration first; the empty text takes a namespace back. -/
abbrev Scope := List SpaceDeclaration

/-- The namespace of a qualifier. -/
def Scope.find? (scope : Scope) (qualifier : Option String) : Option String :=
  if qualifier == some "xml" then some xmlSpace
  else
    match List.find? (fun d => d.qualifier == qualifier) scope with
    | some d => if d.space.isEmpty then none else some d.space
    | none => none

/-- A text without blanks at its ends and with single spaces inside. -/
def singleSpaces (pieces : List Piece) : List Piece :=
  let isSpace (p : Piece) : Bool := p == .char ' '
  let rec squeeze : (pending started : Bool) → List Piece → List Piece
    | _, _, [] => []
    | pending, started, p :: ps =>
      if isSpace p then squeeze started started ps
      else if pending then .char ' ' :: p :: squeeze false true ps
      else p :: squeeze false true ps
  squeeze false false pieces

/-- The resolved start of an element: its name, the namespaces declared there, and its attributes. -/
structure Tag where
  name : Name
  declared : List SpaceDeclaration
  attributes : List Attribute

/-- What the document type says about the attributes of elements, first declarations first. -/
abbrev AttributeTable := List (String × AttributeDeclaration)

namespace AttributeTable

/-- The table of declarations; of two declarations for one attribute the first counts. -/
def ofDeclarations (ds : List Declaration) : AttributeTable :=
  let all := ds.flatMap fun d =>
    match d with
    | .attributes element as => as.map fun a => (element, a)
    | _ => []
  all.foldl (fun table e =>
    if table.any fun f => f.1 == e.1 && f.2.name == e.2.name then table else table ++ [e]) []

/-- The declarations for an element. -/
def of (table : AttributeTable) (element : String) : List AttributeDeclaration :=
  (table.filter (·.1 == element)).map (·.2)

end AttributeTable

/-- The value that a declaration gives to an attribute that is not written. -/
def AttributeDeclaration.default? (d : AttributeDeclaration) : Option (List Piece) :=
  match d.default with
  | .fixed v | .value v => some (if d.type == .text then v else singleSpaces v)
  | _ => none

/-- The attributes of an element with their types applied and the missing ones added at the end. -/
def declaredAttributes (declarations : List AttributeDeclaration)
    (written : List WrittenAttribute) : List WrittenAttribute :=
  let typed := written.map fun a =>
    match declarations.find? (·.name == a.name) with
    | some d => if d.type == .text then a else { a with value := singleSpaces a.value }
    | none => a
  let missing := declarations.filterMap fun d =>
    if written.any (·.name == d.name) then none
    else d.default?.map fun v => ⟨d.name, v⟩
  typed ++ missing

end Conformity.Markup

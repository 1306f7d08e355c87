import Conformity.Markup.Declarations

/-!
# Reading documents

The content of an element is read into a stack of open elements, each with the children it has so
far; an end tag turns the top of the stack into a child of the element below. `Written.document?`
reads a whole document: heading, document type, root, and what may stand around them.
-/

namespace Conformity.Markup

/-- An element that is still open, with its children so far, last one first. -/
structure OpenElement where
  name : String
  attributes : List WrittenAttribute
  children : List Written := []

namespace OpenElement

/-- The element with one more child. -/
def add (e : OpenElement) (child : Written) : OpenElement :=
  { e with children := child :: e.children }

/-- The element as it is when closed. -/
def closed (e : OpenElement) : Written := .element e.name e.attributes e.children.reverse

end OpenElement

/-- Reads the attributes of a tag up to its end; true if the tag is the whole element. -/
def tagAttributes (edition : NameEdition) : (fuel : Nat) → (read : List WrittenAttribute) →
    List Char → Option (List WrittenAttribute × Bool × List Char)
  | 0, _, _ => none
  | fuel + 1, read, cs =>
    match skipSpace cs with
    | '>' :: rest => some (read.reverse, false, rest)
    | '/' :: '>' :: rest => some (read.reverse, true, rest)
    | _ => do
      let (name, rest) ← edition.name? (← spaces? cs)
      let (value, rest) ← attributeValue? edition (← equals? rest)
      if read.any (·.name == name) then none
      else tagAttributes edition fuel (⟨name, value⟩ :: read) rest

/-- Reads a start tag behind its opening. -/
def startTag? (edition : NameEdition) (cs : List Char) :
    Option (OpenElement × Bool × List Char) := do
  let (name, rest) ← edition.name? cs
  let (attributes, whole, rest) ← tagAttributes edition (rest.length + 1) [] rest
  return (⟨name, attributes, []⟩, whole, rest)

/-- Reads an end tag behind its opening. -/
def endTag? (edition : NameEdition) (cs : List Char) : Option (String × List Char) := do
  let (name, rest) ← edition.name? cs
  return (name, ← declarationEnd? rest)

/-- Reads content up to the end tag of the lowest open element, or up to the end of the text if that
element has no name. -/
def content (edition : NameEdition) : (fuel : Nat) → (top : OpenElement) →
    (below : List OpenElement) → List Char → Option (Written × List Char)
  | 0, _, _, _ => none
  | fuel + 1, top, below, cs =>
    match cs with
    | [] => if below.isEmpty && top.name.isEmpty then some (top.closed, []) else none
    | '&' :: rest =>
      match reference? edition rest with
      | some (.char c, rest) =>
        content edition fuel (top.add (.text (String.ofList [c]))) below rest
      | some (.entity name, rest) => content edition fuel (top.add (.entity name)) below rest
      | none => none
    | '<' :: '/' :: rest =>
      match endTag? edition rest with
      | some (name, rest) =>
        if name != top.name then none
        else
          match below with
          | [] => some (top.closed, rest)
          | next :: below => content edition fuel (next.add top.closed) below rest
      | none => none
    | '<' :: '?' :: rest =>
      match instruction? edition rest with
      | some ((target, data), rest) =>
        content edition fuel (top.add (.instruction target data)) below rest
      | none => none
    | '<' :: '!' :: rest =>
      match Text.after? "--".toList rest with
      | some rest =>
        match comment? rest with
        | some (c, rest) => content edition fuel (top.add (.comment c)) below rest
        | none => none
      | none =>
        match (Text.after? "[CDATA[".toList rest).bind (upTo? "]]>".toList []) with
        | some (t, rest) => content edition fuel (top.add (.text (String.ofList t))) below rest
        | none => none
    | '<' :: rest =>
      match startTag? edition rest with
      | some (e, true, rest) => content edition fuel (top.add e.closed) below rest
      | some (e, false, rest) => content edition fuel e (top :: below) rest
      | none => none
    | _ =>
      let isText (c : Char) : Bool := c != '<' && c != '&'
      let run := cs.takeWhile isText
      if Text.hasPart "]]>".toList run then none
      else
        content edition fuel (top.add (.text (String.ofList run))) below (cs.dropWhile isText)

namespace Written

/-- Reads an element behind the opening of its start tag. -/
def element? (edition : NameEdition) (cs : List Char) : Option (Written × List Char) :=
  match startTag? edition cs with
  | some (e, true, rest) => some (e.closed, rest)
  | some (e, false, rest) => content edition (rest.length + 1) e [] rest
  | none => none

/-- Reads a text that is the content of an element. -/
def fragment? (edition : NameEdition) (cs : List Char) : Option (List Written) :=
  match content edition (cs.length + 1) ⟨"", [], []⟩ [] cs with
  | some (.element _ _ children, []) => some children
  | _ => none

/-- Reads what stands before the root: the comments and instructions before the document type, the type
if there is one, and those behind it. -/
def prolog? (edition : NameEdition) (cs : List Char) :
    Option (List Written × Option Doctype × List Written × List Char) := do
  let (before, rest) ← miscellany edition (cs.length + 1) [] cs
  match Text.after? "<!DOCTYPE".toList rest with
  | some rest =>
    let (d, rest) ← doctype? edition rest
    let (after, rest) ← miscellany edition (rest.length + 1) [] rest
    return (before, some d, after, rest)
  | none => return ([], none, before, rest)

/-- Reads a document. -/
def document? (edition : NameEdition) (cs : List Char) : Option WrittenDocument :=
  if !cs.all isDocumentChar then none
  else do
    let (heading, rest) ← Heading.read? (plainLines cs)
    let (beforeType, doctype, beforeRoot, rest) ← prolog? edition rest
    let (root, rest) ← element? edition (← Text.after? ['<'] rest)
    let (afterRoot, rest) ← miscellany edition (rest.length + 1) [] rest
    if rest.isEmpty then
      return { heading, beforeType, doctype, beforeRoot, root, afterRoot }
    else none

end Written

end Conformity.Markup

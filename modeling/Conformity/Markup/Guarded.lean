import Conformity.Markup.Charset
import Conformity.Markup.Content
import Conformity.Markup.Resolved

/-!
# Guarded reading

Reading a document of unknown origin for its elements and attributes. A document that declares
entities is refused, so no text can be multiplied by references; declared attribute defaults count, and
nothing outside is fetched. Every fault of form or of names makes the document unreadable; only a
declared character set that is not known, or that is not made of single bytes, is told apart.
-/

namespace Conformity.Markup

/-- What is read: characters, or bytes whose character set has to be found out. -/
inductive Source where
  | chars (cs : List Char)
  | bytes (bs : Bytes)

/-- Why a document is not read. -/
inductive Refusal where
  | unreadable
  | unknownCharset (label : String)
  | multiByteCharset
  deriving DecidableEq, Repr

namespace Refusal

/-- The text for a refusal. -/
def message : Refusal → String
  | unreadable => "unreadable"
  | unknownCharset label => "unknown encoding: " ++ label
  | multiByteCharset => "multi-byte encodings are not supported"

end Refusal

namespace Guarded

/-- What is read, without which the document is unreadable. -/
def orUnreadable {α : Type} : Option α → Except Refusal α
  | some a => .ok a
  | none => .error .unreadable

/-! ## Bytes to characters -/

/-- Does a label name one of the sets that every reader has? -/
def isKnownLabel (label : String) : Bool :=
  ["utf-8", "us-ascii", "iso-8859-1", "utf-16", "utf-16be", "utf-16le"].contains
    (label.map Char.toLower)

/-- Does a heading's label agree with two-byte units in an order? -/
def agreesWithUnits (bigEndian : Bool) (label : String) : Bool :=
  let l := label.map Char.toLower
  l == "utf-16" || l == (if bigEndian then "utf-16be" else "utf-16le")

/-- The labels under which UTF-8 is known besides its own. -/
def utf8Labels : List String := ["utf8", "u8", "utf", "cp65001", "utf8ucs2", "utf8ucs4"]

/-- The set of characters that a heading names; a set known by another name of UTF-8 is read byte by
byte, and so holds ASCII alone. -/
def charsetOf (label : String) : Except Refusal Charset :=
  let l := label.map Char.toLower
  if l == "utf-8" then .ok .utf8
  else if l == "us-ascii" then .ok (.single [])
  else if l == "iso-8859-1" then .ok (.single iso8859p1Runs)
  else if isKnownLabel label then .error .unreadable
  else
    match singleByte? label with
    | some upper => .ok (.single upper)
    | none =>
      if utf8Labels.contains (plainLabel label) then .ok (.single [])
      else if multiByteLabels.contains (plainLabel label) then .error .multiByteCharset
      else .error (.unknownCharset label)

/-- How bytes are laid out: in single bytes, of which a character may take several, or in units of two
bytes. -/
inductive Layout where
  | singles
  | units (bigEndian : Bool)
  deriving DecidableEq, Repr

namespace Layout

/-- The layout of a document's bytes, with the bytes behind a mark of the layout. Without a mark, units
are told by a zero among the first two bytes. -/
def of : Bytes → Layout × Bytes
  | 0xFF :: 0xFE :: rest => (units false, rest)
  | 0xFE :: 0xFF :: rest => (units true, rest)
  | 0xEF :: 0xBB :: 0xBF :: rest => (singles, rest)
  | 0 :: rest => (units true, 0 :: rest)
  | b :: 0 :: rest => (units false, b :: 0 :: rest)
  | bs => (singles, bs)

/-- The codes that bytes stand for, as far as these are ASCII characters. -/
def codes : Layout → Bytes → List Nat
  | singles, bs => bs.map UInt8.toNat
  | units bigEndian, bs => fullUnits16 bigEndian bs

/-- The character set of a document that does not name one. -/
def charset : Layout → Charset
  | singles => .utf8
  | units bigEndian => .utf16 bigEndian

/-- The character set of a document that names one. Units can only be named by their own name, and
still the name of another set has to be one that can be read. -/
def charsetOf (layout : Layout) (label : String) : Except Refusal Charset :=
  match layout with
  | singles => Guarded.charsetOf label
  | units bigEndian =>
    if agreesWithUnits bigEndian label then .ok (.utf16 bigEndian)
    else
      match Guarded.charsetOf label with
      | .ok _ => .error .unreadable
      | .error r => .error r

/-- The label of the character set in the heading that bytes seem to begin with. -/
def label? (layout : Layout) (bs : Bytes) : Option String :=
  (Heading.ofCodes? (layout.codes bs)).bind (·.encoding)

/-- The characters of bytes. Their label is looked at first. -/
def chars (layout : Layout) (bs : Bytes) : Except Refusal (List Char) := do
  let charset ←
    match layout.label? bs with
    | some label => layout.charsetOf label
    | none => pure layout.charset
  orUnreadable (charset.decode? bs)

end Layout

/-- The characters of a source. -/
def chars : Source → Except Refusal (List Char)
  | .chars ('\uFEFF' :: cs) => .ok cs
  | .chars cs => .ok cs
  | .bytes bs => (Layout.of bs).1.chars (Layout.of bs).2

/-! ## Declarations -/

/-- Is a name free of colons? -/
def isSimple (name : String) : Bool := !name.toList.contains ':'

/-- Is a name a base, or a qualifier and a base? -/
def isQualified (name : String) : Bool := (QName.ofWritten? .listed name).isSome

mutual

/-- Are all names in a content model well formed? -/
def isModelNamed : ContentModel → Bool
  | .name n _ => isQualified n
  | .sequence parts _ => areModelsNamed parts
  | .choice parts _ => areModelsNamed parts

/-- Are all names in several content models well formed? -/
def areModelsNamed : List ContentModel → Bool
  | [] => true
  | m :: ms => isModelNamed m && areModelsNamed ms

end

/-- What the declarations read so far come to. -/
structure Subset where
  /-- Has a parameter been passed over? -/
  unread : Bool := false
  /-- Are declarations no longer heeded? -/
  deaf : Bool := false
  table : List Declaration := []

namespace Subset

/-- Takes one more declaration in; nothing if it is refused. -/
def add? (standalone : Bool) (s : Subset) (d : Declaration) : Option Subset :=
  match d with
  | .element name content =>
    let named :=
      match content with
      | .children model => isModelNamed model
      | .mixed names _ => names.all isQualified
      | _ => true
    if isQualified name && named then some s else none
  | .attributes element as =>
    let named := as.all fun a =>
      isQualified a.name &&
        match a.type with
        | .formats names => names.all isSimple
        | _ => true
    if isQualified element && named then
      some (if s.deaf then s else { s with table := s.table ++ [d] })
    else none
  | .entity name _ | .parameter name _ => if s.deaf && isSimple name then some s else none
  | .format name _ => if isSimple name then some s else none
  | .comment _ => some s
  | .instruction target _ => if isSimple target then some s else none
  | .unread name =>
    if isSimple name then some { s with unread := true, deaf := !standalone } else none

end Subset

/-! ## Elements -/

/-- What holds for all elements of a document. -/
structure Rules where
  table : AttributeTable := []
  /-- May an attribute refer to an entity that is not declared? The reference stands for nothing. -/
  lenient : Bool := false

/-- The text of an attribute value. -/
def valueText? (lenient : Bool) : List Piece → Option (List Char)
  | [] => some []
  | .char c :: ps => (valueText? lenient ps).map (c :: ·)
  | .entity name :: ps => if lenient && isSimple name then valueText? lenient ps else none

/-- Is a namespace declaration allowed? The two namespaces of the standard belong to their qualifiers, a
qualifier must have a namespace, and a closing brace would end the namespace early. -/
def isAllowed (d : SpaceDeclaration) : Bool :=
  !d.space.toList.contains '}' &&
    match d.qualifier with
    | none => d.space != xmlSpace && d.space != xmlnsSpace
    | some "xmlns" => false
    | some "xml" => d.space == xmlSpace
    | some _ => !d.space.isEmpty && d.space != xmlSpace && d.space != xmlnsSpace

/-- The names of attributes in no scope yet, with their texts. -/
def textsOf? (rules : Rules) (as : List WrittenAttribute) : Option (List (QName × String)) :=
  as.mapM fun a => do
    let text ← valueText? rules.lenient a.value
    return (← QName.ofWritten? .listed a.name, String.ofList text)

/-- The attribute that a name and a text are in a scope. -/
def attribute? (scope : Scope) (a : QName × String) : Option Attribute :=
  match a.1.qualifier with
  | none => some { name := { base := a.1.base }, value := a.2 }
  | some q => (scope.find? (some q)).map fun space =>
      { name := ⟨some space, some q, a.1.base⟩, value := a.2 }

/-- Is each expanded name there once? -/
def areDistinct : List Attribute → Bool
  | [] => true
  | a :: as =>
    as.all (fun b => a.name.space != b.name.space || a.name.base != b.name.base) && areDistinct as

/-- Resolves the start of an element. -/
def tag? (rules : Rules) (scope : Scope) (name : String) (written : List WrittenAttribute) :
    Option Tag := do
  let q ← QName.ofWritten? .listed name
  let texts ← textsOf? rules (declaredAttributes (rules.table.of name) written)
  let declared := texts.filterMap fun (q, text) => q.declares?.map fun p => ⟨p, text⟩
  if !declared.all isAllowed then none
  else
    let scope : Scope := declared.reverse ++ scope
    let attributes ← (texts.filter fun (q, _) => q.declares?.isNone).mapM (attribute? scope)
    if !areDistinct attributes then none
    else
      match q.qualifier, scope.find? q.qualifier with
      | some _, none => none
      | _, space => return ⟨⟨space, q.qualifier, q.base⟩, declared, attributes⟩

mutual

/-- Resolves a node. -/
def node? (rules : Rules) (scope : Scope) : Written → Option Node
  | .text s => some (.text s)
  | .entity _ => none
  | .comment s => some (.comment s)
  | .instruction target data => if isSimple target then some (.instruction target data) else none
  | .element name attributes children => do
    let t ← tag? rules scope name attributes
    let nodes ← nodes? rules (t.declared.reverse ++ scope) children
    return .element t.name t.declared t.attributes nodes

/-- Resolves several nodes. -/
def nodes? (rules : Rules) (scope : Scope) : List Written → Option (List Node)
  | [] => some []
  | w :: ws => do return (← node? rules scope w) :: (← nodes? rules scope ws)

end

/-- Resolves a document and gives its root. -/
def root? (d : WrittenDocument) : Option Node := do
  let standalone := (d.heading.bind (·.standalone)).getD false
  let rules ←
    match d.doctype with
    | none => some {}
    | some t =>
      if !isQualified t.name then none
      else
        let s ← t.declarations.foldlM (Subset.add? standalone) ({} : Subset)
        some { table := .ofDeclarations s.table,
               lenient := (s.unread || t.id.systemId.isSome) && !standalone : Rules }
  let _ ← nodes? rules [] (d.beforeType ++ d.beforeRoot ++ d.afterRoot)
  node? rules [] d.root

/-- Reads a document and gives its root. -/
def read (source : Source) : Except Refusal Node := do
  orUnreadable ((Written.document? .listed (← chars source)).bind root?)

end Guarded

end Conformity.Markup

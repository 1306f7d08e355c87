import Conformity.Markup.Charset
import Conformity.Markup.Content
import Conformity.Markup.Resolved
import Conformity.Table
import Conformity.Text.Uri

/-!
# Faithful reading

Reading a document in order to change it and write it again. References to entities stay references,
and the document type stays with the document. Faults of form make a document malformed at once.
Faults of names are noted, and so are remarks; the document is malformed if a fault was noted and the
last note is not a remark.
-/

namespace Conformity.Markup.Faithful

/-- What is noted while reading. -/
inductive Notice where
  /-- A name breaks a rule of namespaces. -/
  | fault
  /-- A reference to an entity that is declared nowhere, but may be declared outside. -/
  | undeclared
  | remark
  deriving DecidableEq, Repr

/-- A step of reading: nothing if the document is malformed; the last notice comes first. -/
abbrev Reading (α : Type) := StateT (List Notice) Option α

/-- Notes something. -/
def note (n : Notice) : Reading Unit := modify (n :: ·)

/-- Notes something if it is so. -/
def noteIf (b : Bool) (n : Notice) : Reading Unit := if b then note n else pure ()

/-- The document is malformed. -/
def malformed {α : Type} : Reading α := fun _ => none

/-- Is a document with these notices taken? -/
def isTaken (notices : List Notice) : Bool :=
  !notices.contains .fault || notices.head? == some .remark

/-! ## Bytes to characters -/

/-- The labels of UTF-8. -/
def utf8Labels : List String := ["utf8", "utf-8"]

/-- The characters of bytes in the set that their heading names. -/
def charsOfSingles? (bs : Bytes) : Option (List Char) :=
  match (Heading.ofBytes? bs).bind (·.encoding) with
  | none => Charset.utf8.decode? bs
  | some label =>
    if utf8Labels.contains (label.map Char.toLower) then Charset.utf8.decode? bs
    else (singleByte? label).bind fun upper => (Charset.single upper).decode? bs

/-- The characters of a document's bytes. -/
def chars? : Bytes → Option (List Char)
  | 0xFF :: 0xFE :: rest => (Charset.utf16 false).decode? rest
  | 0xFE :: 0xFF :: rest => (Charset.utf16 true).decode? rest
  | 0xEF :: 0xBB :: 0xBF :: rest => Charset.utf8.decode? rest
  | 0x3C :: 0 :: 0x3F :: 0 :: rest => (Charset.utf16 false).decode? (0x3C :: 0 :: 0x3F :: 0 :: rest)
  | 0 :: 0x3C :: 0 :: 0x3F :: rest => (Charset.utf16 true).decode? (0 :: 0x3C :: 0 :: 0x3F :: rest)
  | bs => charsOfSingles? bs

/-! ## Entities -/

/-- What the document type says, as far as it is read. -/
structure Declared where
  general : Table EntityValue := []
  parameters : Table EntityValue := []
  /-- The declarations that count, last one first. -/
  kept : List Declaration := []
  /-- May there be declarations outside? -/
  outside : Bool := false
  standalone : Bool := false

/-- The text that stands for an entity: its literal with the characters put in that it names by
code. -/
def replacement : (fuel : Nat) → List Char → List Char
  | 0, cs => cs
  | _, [] => []
  | fuel + 1, '&' :: '#' :: cs =>
    match reference? .ranged ('#' :: cs) with
    | some (.char c, rest) => c :: replacement fuel rest
    | _ => '&' :: '#' :: replacement fuel cs
  | fuel + 1, c :: cs => c :: replacement fuel cs

/-- The text that stands for a literal. -/
def textOfLiteral (literal : List Char) : List Char := replacement literal.length literal

/-- May a reference to an undeclared entity stand? -/
def Declared.mayLack (d : Declared) : Bool := d.outside && !d.standalone

/-- The text of an attribute value. The value of an entity is read by `inner`, and none that is declared
outside may occur. -/
def valueWith (d : Declared) (inner : Option (List Piece → Reading (List Char))) :
    List Piece → Reading (List Char)
  | [] => pure []
  | .char c :: ps => do return c :: (← valueWith d inner ps)
  | .entity name :: ps => do
    let text ←
      match inner with
      | none => malformed
      | some read =>
        match d.general.get? name with
        | some (.internal literal) =>
          match pieces? .ranged (textOfLiteral literal) with
          | some ps => read ps
          | none => malformed
        | some _ => malformed
        | none =>
          if d.mayLack then do
            note .undeclared
            pure []
          else malformed
    return text ++ (← valueWith d inner ps)

/-- The text of an attribute value in which entities nest at most `fuel` deep. -/
def valueText (d : Declared) : (fuel : Nat) → List Piece → Reading (List Char)
  | 0 => valueWith d none
  | fuel + 1 => valueWith d (some (valueText d fuel))

/-! ## Declarations -/

/-- Is a name free of colons? -/
def isSimple (name : String) : Bool := !name.toList.contains ':'

/-- Notes a fault if a name that must be simple is not. -/
def noteColon (name : String) : Reading Unit := noteIf (!isSimple name) .fault

/-- Notes what is to be said about the target of an instruction. -/
def noteTarget (target : String) : Reading Unit := do
  let reserved := (target.take 3).toString.map Char.toLower == "xml"
  let known := target == "xml-stylesheet" || target == "xml-model"
  noteIf (reserved && !known) .remark
  noteColon target

namespace Declared

/-- Keeps a declaration. -/
def keep (d : Declared) (x : Declaration) : Declared := { d with kept := x :: d.kept }

/-- Has an attribute of an element been declared? -/
def hasAttribute (d : Declared) (element name : String) : Bool :=
  d.kept.any fun x =>
    match x with
    | .attributes e as => e == element && as.any (·.name == name)
    | _ => false

/-- Has an element been declared? -/
def hasElement (d : Declared) (name : String) : Bool :=
  d.kept.any fun x =>
    match x with
    | .element e _ => e == name
    | _ => false

/-- The declarations that a reference to a parameter stands for; none if they are not at hand. -/
def parameterText (d : Declared) (name : String) : Reading (List Declaration) :=
  match d.parameters.get? name with
  | some (.internal literal) =>
    match declarationsOf? .ranged (textOfLiteral literal) with
    | some ds => pure ds
    | none => malformed
  | some _ => pure []
  | none => if d.standalone then malformed else pure []

end Declared

/-- Takes declarations in. Those of a parameter are taken in by `inner`. -/
def declareWith (inner : Option (Declared → List Declaration → Reading Declared)) :
    (d : Declared) → List Declaration → Reading Declared
  | d, [] => pure d
  | d, x :: xs => do
    let d ←
      match x with
      | .element name _ => do
        noteIf (d.hasElement name) .fault
        pure (if d.hasElement name then d else d.keep x)
      | .attributes element as =>
        pure (as.foldl (fun d a =>
          if d.hasAttribute element a.name then d else d.keep (.attributes element [a])) d)
      | .entity name value => do
        noteColon name
        pure (if d.general.has name then d
          else { d.keep x with general := d.general.set name value })
      | .parameter name value => do
        noteColon name
        pure (if d.parameters.has name then d
          else { d.keep x with parameters := d.parameters.set name value })
      | .format name _ => do
        noteColon name
        pure (d.keep x)
      | .comment _ => pure (d.keep x)
      | .instruction target _ => do
        noteTarget target
        pure (d.keep x)
      | .unread name =>
        match inner with
        | none => malformed
        | some take => do take { d with outside := true } (← d.parameterText name)
    declareWith inner d xs

/-- Takes declarations in, those of parameters included; parameters nest at most `fuel` deep. -/
def declare : (fuel : Nat) → (d : Declared) → List Declaration → Reading Declared
  | 0 => declareWith none
  | fuel + 1 => declareWith (some (declare fuel))

/-! ## Elements -/

/-- What holds for all elements of a document. -/
structure Rules where
  declared : Declared := {}
  table : AttributeTable := []

/-- Splits a name; one that cannot be split is taken whole. -/
def qname (name : String) : Reading QName :=
  match QName.ofWritten? .ranged name with
  | some q => pure q
  | none => do
    note .fault
    return ⟨none, name⟩

/-- Takes a namespace declaration in, unless it is none that can be made. -/
def spaceDeclaration (qualifier : Option String) (space : String) :
    Reading (Option SpaceDeclaration) := do
  let refused : Bool :=
    match qualifier with
    | none => space == xmlSpace || space == xmlnsSpace
    | some q => q == "xmlns" || space == xmlSpace || space == xmlnsSpace || space.isEmpty
  let uri := space.toList
  if qualifier == some "xml" then
    noteIf (space != xmlSpace) .fault
    return none
  else if qualifier.isNone && !space.isEmpty then
    noteIf (!Text.Uri.isUri uri) .fault
    noteIf (Text.Uri.isUri uri && !Text.Uri.isAbsolute uri) .remark
  else if !refused then noteIf (!space.isEmpty && !Text.Uri.isUri uri) .fault
  noteIf refused .fault
  return if refused then none else some ⟨qualifier, space⟩

/-- The attribute that a name, a text and the pieces of the text are in a scope. -/
def attributeOf (scope : Scope) (q : QName) (text : String) (pieces : List Piece) :
    Reading Attribute := do
  let refers := pieces.any fun p =>
    match p with
    | .entity _ => true
    | _ => false
  let name ←
    match q.qualifier with
    | none => pure { base := q.base : Name }
    | some p =>
      match scope.find? (some p) with
      | some space => pure ⟨some space, some p, q.base⟩
      | none => do
        note .fault
        pure { base := p ++ ":" ++ q.base : Name }
  return { name, value := text, pieces := if refers then some pieces else none }

/-- Is an expanded name of a namespace there twice? -/
def isRepeated : List Attribute → Bool
  | [] => false
  | a :: as =>
    (a.name.space.isSome &&
      as.any fun b => a.name.space == b.name.space && a.name.base == b.name.base) || isRepeated as

/-- Resolves the start of an element. -/
def tag (rules : Rules) (scope : Scope) (name : String) (written : List WrittenAttribute) :
    Reading Tag := do
  let q ← qname name
  let depth := rules.declared.general.length + 1
  let read ← (declaredAttributes (rules.table.of name) written).mapM fun a => do
    let q ← qname a.name
    let text ← valueText rules.declared depth a.value
    let text := String.ofList text
    noteIf (a.name == "xml:space" && text != "default" && text != "preserve") .remark
    match q.declares? with
    | some p => return (q, text, a.value, ← spaceDeclaration p text)
    | none => return (q, text, a.value, none)
  let declared := read.filterMap fun (_, _, _, d) => d
  let scope : Scope := declared.reverse ++ scope
  let attributes ← (read.filter fun (q, _) => q.declares?.isNone).mapM
    fun (q, text, pieces, _) => attributeOf scope q text pieces
  noteIf (isRepeated attributes) .fault
  match q.qualifier, scope.find? q.qualifier with
  | some p, none => do
    note .fault
    return ⟨{ base := p ++ ":" ++ q.base }, declared, attributes⟩
  | _, space => return ⟨⟨space, q.qualifier, q.base⟩, declared, attributes⟩

/-- How deep elements may nest. -/
def maxDepth : Nat := 256

mutual

/-- Resolves a node below `depth` elements; `expand` notes what is to be said about the text of an
entity. -/
def node (rules : Rules) (expand : Scope → Nat → String → Reading Unit) (scope : Scope)
    (depth : Nat) : Written → Reading Node
  | .text s => pure (.text s)
  | .entity name => do
    expand scope depth name
    return .entity name
  | .comment s => pure (.comment s)
  | .instruction target data => do
    noteTarget target
    return .instruction target data
  | .element name attributes children =>
    if depth < maxDepth then do
      let t ← tag rules scope name attributes
      let inner ← nodes rules expand (t.declared.reverse ++ scope) (depth + 1) children
      return .element t.name t.declared t.attributes inner
    else malformed

/-- Resolves several nodes. -/
def nodes (rules : Rules) (expand : Scope → Nat → String → Reading Unit) (scope : Scope)
    (depth : Nat) : List Written → Reading (List Node)
  | [] => pure []
  | w :: ws => do
    let n ← node rules expand scope depth w
    return n :: (← nodes rules expand scope depth ws)

end

/-- Notes what is to be said about a reference to an entity in content: the text of the entity must be
content too. Entities nest at most `fuel` deep. -/
def expand (rules : Rules) : (fuel : Nat) → Scope → Nat → String → Reading Unit
  | 0, _, _, _ => malformed
  | fuel + 1, scope, depth, name =>
    match rules.declared.general.get? name with
    | some (.internal literal) =>
      match Written.fragment? .ranged (textOfLiteral literal) with
      | some ws => do let _ ← nodes rules (expand rules fuel) scope depth ws
      | none => malformed
    | some (.external _) => pure ()
    | some (.unparsed ..) => malformed
    | none => if rules.declared.mayLack then note .undeclared else malformed

/-! ## Documents -/

/-- Is a version one that can be read? -/
def isVersion (version : String) : Bool :=
  match version.toList with
  | '1' :: '.' :: cs => cs.all Char.isDigit
  | _ => false

/-- Resolves a document. -/
def document (w : WrittenDocument) : Reading Document := do
  let version := (w.heading.map (·.version)).getD "1.0"
  if !isVersion version then malformed
  else
    noteIf (version != "1.0") .remark
    let standalone := (w.heading.bind (·.standalone)).getD false
    let outside := (w.doctype.bind fun t => t.id.systemId).isSome
    let around := nodes {} (fun _ _ _ => malformed) [] 0
    let beforeType ← around w.beforeType
    let ds := (w.doctype.map (·.declarations)).getD []
    let declared ← declare (ds.length + 1) { outside, standalone } ds
    let kept := declared.kept.reverse
    let rules : Rules := { declared, table := .ofDeclarations kept }
    let beforeRoot ← around w.beforeRoot
    let root ← node rules (expand rules (declared.general.length + 1)) [] 0 w.root
    let afterRoot ← around w.afterRoot
    let doctype := w.doctype.map fun t => { t with declarations := kept }
    return { version, beforeType, doctype, beforeRoot, root, afterRoot }

/-- Reads a document; nothing if it is malformed. -/
def read? (bs : Bytes) : Option Document := do
  let w ← Written.document? .ranged (← chars? bs)
  let (d, notices) ← (document w).run []
  if isTaken notices then some d else none

end Conformity.Markup.Faithful

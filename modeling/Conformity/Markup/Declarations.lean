import Conformity.Markup.Lexical

/-!
# Reading declarations

The document type names the root and may point outside; between brackets it declares elements,
attributes, entities and formats. References to parameters are kept as they are.
-/

namespace Conformity.Markup

/-- May a character stand in a public identifier? -/
def isPublicChar (c : Char) : Bool :=
  c.isAlphanum || " \n-'()+,./:=?;!*#@$_%".toList.contains c

/-- Reads a public identifier. -/
def publicLiteral? (cs : List Char) : Option (String × List Char) := do
  let (value, rest) ← literal? cs
  if value.all isPublicChar then some (String.ofList value, rest) else none

/-- Reads a system identifier. -/
def systemLiteral? (cs : List Char) : Option (String × List Char) := do
  let (value, rest) ← literal? cs
  return (String.ofList value, rest)

/-- Reads where something outside is found, if that is what follows. A public identifier needs a system
identifier too, unless `publicOnly`. -/
def externalId? (publicOnly : Bool) (cs : List Char) : Option (ExternalId × List Char) :=
  match Text.after? "SYSTEM".toList cs with
  | some rest => do
    let (s, rest) ← systemLiteral? (← spaces? rest)
    return (⟨none, some s⟩, rest)
  | none => do
    let (p, rest) ← publicLiteral? (← spaces? (← Text.after? "PUBLIC".toList cs))
    match (spaces? rest).bind systemLiteral? with
    | some (s, rest) => return (⟨some p, some s⟩, rest)
    | none => if publicOnly then return (⟨some p, none⟩, rest) else none

/-- Does a text hold an entity's text? Every ampersand must begin a reference, and there must be no
percent sign; `fuel` is at least the length. -/
def isEntityText (edition : NameEdition) : (fuel : Nat) → List Char → Bool
  | _, [] => true
  | 0, _ :: _ => false
  | fuel + 1, c :: cs =>
    if c == '%' then false
    else if c == '&' then
      match reference? edition cs with
      | some (_, rest) => isEntityText edition fuel rest
      | none => false
    else isEntityText edition fuel cs

/-- Reads what an entity stands for; only a general entity may be unparsed. -/
def entityValue? (edition : NameEdition) (general : Bool) (cs : List Char) :
    Option (EntityValue × List Char) :=
  match literal? cs with
  | some (value, rest) =>
    if isEntityText edition value.length value then some (.internal value, rest) else none
  | none => do
    let (id, rest) ← externalId? false cs
    match (spaces? rest).bind (Text.after? "NDATA".toList) with
    | some rest' =>
      if general then
        let (format, rest') ← edition.name? (← spaces? rest')
        return (.unparsed id format, rest')
      else none
    | none => return (.external id, rest)

/-- Reads the end of a declaration. -/
def declarationEnd? (cs : List Char) : Option (List Char) :=
  match skipSpace cs with
  | '>' :: rest => some rest
  | _ => none

/-- Reads the declaration of an entity or a parameter behind its keyword. -/
def entity? (edition : NameEdition) (cs : List Char) : Option (Declaration × List Char) := do
  let rest ← spaces? cs
  match rest with
  | '%' :: rest =>
    let (name, rest) ← edition.name? (← spaces? rest)
    let (value, rest) ← entityValue? edition false (← spaces? rest)
    return (.parameter name value, ← declarationEnd? rest)
  | _ =>
    let (name, rest) ← edition.name? rest
    let (value, rest) ← entityValue? edition true (← spaces? rest)
    return (.entity name value, ← declarationEnd? rest)

/-- Reads the declaration of a format behind its keyword. -/
def format? (edition : NameEdition) (cs : List Char) : Option (Declaration × List Char) := do
  let (name, rest) ← edition.name? (← spaces? cs)
  let (id, rest) ← externalId? true (← spaces? rest)
  return (.format name id, ← declarationEnd? rest)

/-- Reads how often a part occurs. -/
def occurs : List Char → Occurs × List Char
  | '?' :: cs => (.optional, cs)
  | '*' :: cs => (.any, cs)
  | '+' :: cs => (.several, cs)
  | cs => (.once, cs)

/-- Reads names, or other words, between a separator, up to a closing parenthesis; the first of them is
what follows. -/
def namesUntil (word : List Char → Option (String × List Char)) :
    (fuel : Nat) → (read : List String) → List Char → Option (List String × List Char)
  | 0, _, _ => none
  | fuel + 1, read, cs => do
    let (name, rest) ← word (skipSpace cs)
    match skipSpace rest with
    | '|' :: rest => namesUntil word fuel (name :: read) rest
    | ')' :: rest => return ((name :: read).reverse, rest)
    | _ => none

mutual

/-- Reads one part of a content model. -/
def contentPart? (edition : NameEdition) : (fuel : Nat) → List Char →
    Option (ContentModel × List Char)
  | 0, _ => none
  | fuel + 1, cs =>
    match cs with
    | '(' :: rest => contentGroup? edition fuel none [] rest
    | _ => do
      let (name, rest) ← edition.name? cs
      let (o, rest) := occurs rest
      return (.name name o, rest)

/-- Reads the parts of a group behind its parenthesis, all separated by one kind of separator. -/
def contentGroup? (edition : NameEdition) : (fuel : Nat) → (separator : Option Char) →
    (read : List ContentModel) → List Char → Option (ContentModel × List Char)
  | 0, _, _, _ => none
  | fuel + 1, separator, read, cs =>
    match contentPart? edition fuel (skipSpace cs) with
    | none => none
    | some (part, rest) =>
      match skipSpace rest with
      | ')' :: rest =>
        let (o, rest) := occurs rest
        let parts := (part :: read).reverse
        some (if separator == some '|' then .choice parts o else .sequence parts o, rest)
      | c :: rest =>
        if (c == ',' || c == '|') && (separator.getD c == c) then
          contentGroup? edition fuel (some c) (part :: read) rest
        else none
      | [] => none

end

/-- Reads what an element may contain. -/
def contentSpec? (edition : NameEdition) (cs : List Char) : Option (ContentSpec × List Char) :=
  match Text.after? "EMPTY".toList cs with
  | some rest => some (.empty, rest)
  | none =>
    match Text.after? "ANY".toList cs with
    | some rest => some (.any, rest)
    | none =>
      match cs with
      | '(' :: rest =>
        match Text.after? "#PCDATA".toList (skipSpace rest) with
        | some rest =>
          match skipSpace rest with
          | ')' :: '*' :: rest => some (.mixed [] true, rest)
          | ')' :: rest => some (.mixed [] false, rest)
          | '|' :: rest =>
            match namesUntil edition.name? (rest.length + 1) [] rest with
            | some (names, '*' :: rest) => some (.mixed names true, rest)
            | _ => none
          | _ => none
        | none =>
          (contentPart? edition (2 * cs.length + 2) cs).map fun p => (.children p.1, p.2)
      | _ => none

/-- Reads the declaration of an element behind its keyword. -/
def element? (edition : NameEdition) (cs : List Char) : Option (Declaration × List Char) := do
  let (name, rest) ← edition.name? (← spaces? cs)
  let (content, rest) ← contentSpec? edition (← spaces? rest)
  return (.element name content, ← declarationEnd? rest)

/-- The types of names and tokens. -/
def tokenTypes : List String :=
  ["ID", "IDREF", "IDREFS", "ENTITY", "ENTITIES", "NMTOKEN", "NMTOKENS"]

/-- Reads the type of an attribute. -/
def attributeType? (edition : NameEdition) (cs : List Char) :
    Option (AttributeType × List Char) :=
  match cs with
  | '(' :: rest =>
    (namesUntil edition.token? (rest.length + 1) [] rest).map fun p => (.oneOf p.1, p.2)
  | _ =>
    let word := String.ofList (cs.takeWhile Char.isUpper)
    let rest := cs.dropWhile Char.isUpper
    if word == "CDATA" then some (.text, rest)
    else if tokenTypes.contains word then some (.tokens word, rest)
    else if word == "NOTATION" then
      match spaces? rest with
      | some ('(' :: rest) =>
        (namesUntil edition.name? (rest.length + 1) [] rest).map fun p => (.formats p.1, p.2)
      | _ => none
    else none

/-- Reads what holds for an attribute that is not written. -/
def attributeDefault? (edition : NameEdition) (cs : List Char) :
    Option (AttributeDefault × List Char) :=
  match Text.after? "#REQUIRED".toList cs with
  | some rest => some (.required, rest)
  | none =>
    match Text.after? "#IMPLIED".toList cs with
    | some rest => some (.implied, rest)
    | none =>
      match Text.after? "#FIXED".toList cs with
      | some rest => do
        let (value, rest) ← attributeValue? edition (← spaces? rest)
        return (.fixed value, rest)
      | none => (attributeValue? edition cs).map fun p => (.value p.1, p.2)

/-- Reads the attributes of an element's list up to the end of the declaration. -/
def attributesUntil (edition : NameEdition) : (fuel : Nat) → (read : List AttributeDeclaration) →
    List Char → Option (List AttributeDeclaration × List Char)
  | 0, _, _ => none
  | fuel + 1, read, cs =>
    match declarationEnd? cs with
    | some rest => some (read.reverse, rest)
    | none => do
      let (name, rest) ← edition.name? (← spaces? cs)
      let (type, rest) ← attributeType? edition (← spaces? rest)
      let (default, rest) ← attributeDefault? edition (← spaces? rest)
      attributesUntil edition fuel (⟨name, type, default⟩ :: read) rest

/-- Reads the declaration of an element's attributes behind its keyword. -/
def attributes? (edition : NameEdition) (cs : List Char) : Option (Declaration × List Char) := do
  let (name, rest) ← edition.name? (← spaces? cs)
  let (attributes, rest) ← attributesUntil edition (rest.length + 1) [] rest
  return (.attributes name attributes, rest)

/-- Reads one declaration. -/
def declaration? (edition : NameEdition) (cs : List Char) : Option (Declaration × List Char) :=
  let keywords : List (String × (List Char → Option (Declaration × List Char))) :=
    [("<!--", fun cs => (comment? cs).map fun p => (.comment p.1, p.2)),
     ("<?", fun cs => (instruction? edition cs).map fun p => (.instruction p.1.1 p.1.2, p.2)),
     ("<!ELEMENT", element? edition), ("<!ATTLIST", attributes? edition),
     ("<!ENTITY", entity? edition), ("<!NOTATION", format? edition),
     ("%", fun cs =>
       match edition.name? cs with
       | some (name, ';' :: rest) => some (.unread name, rest)
       | _ => none)]
  match keywords.findSome? fun (word, read) => (Text.after? word.toList cs).map fun r => (read, r) with
  | some (read, rest) => read rest
  | none => none

/-- Reads declarations as long as there are any, with the blanks around them. -/
def declarations (edition : NameEdition) : (fuel : Nat) → (read : List Declaration) → List Char →
    Option (List Declaration × List Char)
  | 0, _, _ => none
  | fuel + 1, read, cs =>
    match skipSpace cs with
    | [] => some (read.reverse, [])
    | ']' :: rest => some (read.reverse, ']' :: rest)
    | cs =>
      match declaration? edition cs with
      | some (d, rest) => declarations edition fuel (d :: read) rest
      | none => none

/-- Reads a text that holds nothing but declarations. -/
def declarationsOf? (edition : NameEdition) (cs : List Char) : Option (List Declaration) :=
  match declarations edition (cs.length + 1) [] cs with
  | some (ds, []) => some ds
  | _ => none

/-- Reads the declarations between brackets, if there are brackets. -/
def subset? (edition : NameEdition) (cs : List Char) : Option (List Declaration × List Char) :=
  match cs with
  | '[' :: rest =>
    match declarations edition (rest.length + 1) [] rest with
    | some (ds, ']' :: rest) => some (ds, rest)
    | _ => none
  | _ => some ([], cs)

/-- Reads a document type behind its opening. -/
def doctype? (edition : NameEdition) (cs : List Char) : Option (Doctype × List Char) := do
  let (name, rest) ← edition.name? (← spaces? cs)
  let behind := skipSpace rest
  let (id, rest) ←
    if Text.startsWith "SYSTEM".toList behind || Text.startsWith "PUBLIC".toList behind then
      externalId? false (← spaces? rest)
    else some ({}, rest)
  let (declarations, rest) ← subset? edition (skipSpace rest)
  return (⟨name, id, declarations⟩, ← declarationEnd? rest)

end Conformity.Markup

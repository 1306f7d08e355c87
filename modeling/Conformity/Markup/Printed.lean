import Conformity.Markup.Tree
import Conformity.Text.Utf8

/-!
# Documents as text

Writing a document: its heading, what stands before the root, the root, and what stands behind it.
Declared namespaces come before the attributes of an element. In text, the three characters of markup
and the carriage return are written by reference; in attribute values, the double quote and all blanks
but the space too.
-/

namespace Conformity.Markup

/-- A character as it is written in text. -/
def textChar (c : Char) : String :=
  match c with
  | '&' => "&amp;"
  | '<' => "&lt;"
  | '>' => "&gt;"
  | '\r' => "&#13;"
  | c => String.singleton c

/-- A character as it is written in an attribute value. -/
def valueChar (c : Char) : String :=
  match c with
  | '"' => "&quot;"
  | '\n' => "&#10;"
  | '\t' => "&#9;"
  | c => textChar c

/-- Text with each character written by `write`. -/
def writeChars (write : Char → String) (s : String) : String :=
  String.join (s.toList.map write)

/-- A value between double quotes. -/
def quotedValue (s : String) : String := "\"" ++ writeChars valueChar s ++ "\""

/-- A text between quotes that it does not hold itself, where there are any. -/
def inQuotes (s : String) : String :=
  if !s.toList.contains '"' then "\"" ++ s ++ "\""
  else if !s.toList.contains '\'' then "'" ++ s ++ "'"
  else "\"" ++ writeChars (fun c => if c == '"' then "&quot;" else String.singleton c) s ++ "\""

/-- A piece of an attribute value. -/
def Piece.print : Piece → String
  | .char c => valueChar c
  | .entity name => "&" ++ name ++ ";"

/-- An attribute behind a space. -/
def Attribute.print (a : Attribute) : String :=
  " " ++ a.name.written ++ "=" ++
    match a.pieces with
    | some ps => "\"" ++ String.join (ps.map Piece.print) ++ "\""
    | none => quotedValue a.value

/-- A declared namespace behind a space. -/
def SpaceDeclaration.print (d : SpaceDeclaration) : String :=
  (match d.qualifier with
    | some q => " xmlns:" ++ q
    | none => " xmlns") ++ "=" ++ quotedValue d.space

/-- An instruction. -/
def printInstruction (target : String) (data : Option String) : String :=
  "<?" ++ target ++ ((data.map (" " ++ ·)).getD "") ++ "?>"

namespace Node

mutual

/-- A node as text. -/
def print : Node → String
  | text s => writeChars textChar s
  | entity name => "&" ++ name ++ ";"
  | comment s => "<!--" ++ s ++ "-->"
  | instruction target data => printInstruction target data
  | element name declared attributes children =>
    let start := "<" ++ name.written ++ String.join (declared.map SpaceDeclaration.print) ++
      String.join (attributes.map Attribute.print)
    match children with
    | [] => start ++ "/>"
    | n :: ns => start ++ ">" ++ print n ++ printAll ns ++ "</" ++ name.written ++ ">"

/-- Nodes as text, one behind the other. -/
def printAll : List Node → String
  | [] => ""
  | n :: ns => print n ++ printAll ns

end

end Node

/-! ## The document type -/

/-- How often a part occurs. -/
def Occurs.print : Occurs → String
  | once => ""
  | optional => "?"
  | any => "*"
  | several => "+"

namespace ContentModel

mutual

/-- A content model as text. -/
def print : ContentModel → String
  | name n o => n ++ o.print
  | sequence parts o => "(" ++ printParts " , " parts ++ ")" ++ o.print
  | choice parts o => "(" ++ printParts " | " parts ++ ")" ++ o.print

/-- The parts of a content model with a separator between them. -/
def printParts (separator : String) : List ContentModel → String
  | [] => ""
  | [m] => print m
  | m :: ms => print m ++ separator ++ printParts separator ms

end

end ContentModel

/-- What an element may contain, as text. -/
def ContentSpec.print : ContentSpec → String
  | empty => "EMPTY"
  | any => "ANY"
  | mixed names star =>
    "(" ++ " | ".intercalate ("#PCDATA" :: names) ++ ")" ++ (if star then "*" else "")
  | children model => model.print

/-- The type of an attribute as text. -/
def AttributeType.print : AttributeType → String
  | text => "CDATA"
  | tokens keyword => keyword
  | formats names => "NOTATION (" ++ " | ".intercalate names ++ ")"
  | oneOf names => "(" ++ " | ".intercalate names ++ ")"

/-- The text of pieces. -/
def printPieces (ps : List Piece) : String :=
  String.join (ps.map fun p =>
    match p with
    | .char c => String.singleton c
    | .entity name => "&" ++ name ++ ";")

/-- What holds for an attribute that is not written, behind a space. -/
def AttributeDefault.print : AttributeDefault → String
  | required => " #REQUIRED"
  | implied => " #IMPLIED"
  | fixed v => " #FIXED " ++ inQuotes (printPieces v)
  | value v => " " ++ inQuotes (printPieces v)

/-- Where something outside is found, as text. -/
def ExternalId.print (id : ExternalId) : String :=
  match id.publicId, id.systemId with
  | some p, some s => "PUBLIC " ++ inQuotes p ++ " " ++ inQuotes s
  | some p, none => "PUBLIC " ++ inQuotes p
  | none, some s => "SYSTEM " ++ inQuotes s
  | none, none => ""

/-- What an entity stands for, as text. -/
def EntityValue.print : EntityValue → String
  | internal literal => inQuotes (String.ofList literal)
  | external id => id.print
  | unparsed id format => id.print ++ " NDATA " ++ format

/-- A declaration as text. -/
def Declaration.print : Declaration → String
  | element name content => "<!ELEMENT " ++ name ++ " " ++ content.print ++ ">\n"
  | attributes owner as =>
    String.join (as.map fun a =>
      "<!ATTLIST " ++ owner ++ " " ++ a.name ++ " " ++ a.type.print ++ a.default.print ++ ">\n")
  | entity name value => "<!ENTITY " ++ name ++ " " ++ value.print ++ ">\n"
  | parameter name value => "<!ENTITY % " ++ name ++ " " ++ value.print ++ ">\n"
  | format name id => "<!NOTATION " ++ name ++ " " ++ id.print ++ " >\n"
  | comment s => "<!--" ++ s ++ "-->"
  | instruction target data => printInstruction target data
  | unread name => "%" ++ name ++ ";"

/-- Is this the declaration of a format? -/
def Declaration.isFormat : Declaration → Bool
  | format .. => true
  | _ => false

/-- Does a declaration declare anything? -/
def Declaration.isDeclaring : Declaration → Bool
  | comment _ | instruction .. | unread _ => false
  | _ => true

/-- A document type as text. Declarations of formats come first. -/
def Doctype.print (t : Doctype) : String :=
  let publicId := t.id.publicId.filter fun s => !s.isEmpty
  let systemId := t.id.systemId.filter fun s => !s.isEmpty
  let place :=
    match publicId, systemId with
    | some p, some s => " PUBLIC \"" ++ p ++ "\" " ++ inQuotes s
    | some p, none => " PUBLIC \"" ++ p ++ "\""
    | none, some s => " SYSTEM " ++ inQuotes s
    | none, none => ""
  let formats := t.declarations.filter Declaration.isFormat
  let others := t.declarations.filter fun d => !d.isFormat
  let inner :=
    if t.declarations.any Declaration.isDeclaring then
      " [\n" ++ String.join (formats.map Declaration.print) ++
        String.join (others.map Declaration.print) ++ "]"
    else ""
  "<!DOCTYPE " ++ t.name ++ place ++ inner ++ ">\n"

namespace Document

/-- The name of the root without its qualifier. -/
def rootBase (d : Document) : String :=
  match d.root with
  | .element name _ _ _ => name.base
  | _ => ""

/-- A document as text. Its type is left out if it is for another root. -/
def print (d : Document) : String :=
  "<?xml version='" ++ d.version ++ "' encoding='UTF-8'?>\n" ++ Node.printAll d.beforeType ++
    (match d.doctype with
      | some t => if t.name == d.rootBase then t.print else ""
      | none => "") ++
    Node.printAll d.beforeRoot ++ d.root.print ++ Node.printAll d.afterRoot

/-- A document as bytes. -/
def bytes (d : Document) : Bytes := bytesOf d.print

end Document

end Conformity.Markup

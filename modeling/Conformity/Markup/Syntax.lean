import Conformity.Markup.Heading

/-!
# The written form of a document

A document as it is written, before names are resolved and defaults added: elements with prefixed
names, text with its character references put in, references to entities, comments, instructions, and
the declarations of a document type.
-/

namespace Conformity.Markup

/-- A part of an attribute value: a character, or a reference to an entity. -/
inductive Piece where
  | char (c : Char)
  | entity (name : String)
  deriving DecidableEq, Repr

/-- An attribute as it is written. -/
structure WrittenAttribute where
  name : String
  value : List Piece
  deriving DecidableEq, Repr

/-- A node as it is written. -/
inductive Written where
  | text (content : String)
  | entity (name : String)
  | comment (content : String)
  | instruction (target : String) (data : Option String)
  | element (name : String) (attributes : List WrittenAttribute) (children : List Written)
  deriving Repr

/-- Where something outside the document is found. -/
structure ExternalId where
  publicId : Option String := none
  systemId : Option String := none
  deriving DecidableEq, Repr

/-- What an entity stands for. -/
inductive EntityValue where
  /-- A text, as it is written between its quotes. -/
  | internal (literal : List Char)
  /-- A document outside. -/
  | external (id : ExternalId)
  /-- Something outside that is no markup, in a named format. -/
  | unparsed (id : ExternalId) (format : String)
  deriving DecidableEq, Repr

/-- How often a part of a content model occurs. -/
inductive Occurs where
  | once
  | optional
  | any
  | several
  deriving DecidableEq, Repr

/-- The order in which children may come. -/
inductive ContentModel where
  | name (name : String) (occurs : Occurs)
  | sequence (parts : List ContentModel) (occurs : Occurs)
  | choice (parts : List ContentModel) (occurs : Occurs)
  deriving Repr

/-- What an element may contain. -/
inductive ContentSpec where
  | empty
  | any
  /-- Text mixed with the named elements; is the star written? -/
  | mixed (names : List String) (star : Bool)
  | children (model : ContentModel)
  deriving Repr

/-- The type of an attribute. -/
inductive AttributeType where
  | text
  /-- A type of names or tokens, by its keyword. -/
  | tokens (keyword : String)
  | formats (names : List String)
  | oneOf (names : List String)
  deriving DecidableEq, Repr

/-- What holds for an attribute that is not written. -/
inductive AttributeDefault where
  | required
  | implied
  | fixed (value : List Piece)
  | value (value : List Piece)
  deriving DecidableEq, Repr

/-- The declaration of one attribute. -/
structure AttributeDeclaration where
  name : String
  type : AttributeType
  default : AttributeDefault
  deriving DecidableEq, Repr

/-- A declaration of the document type. -/
inductive Declaration where
  | element (name : String) (content : ContentSpec)
  | attributes (element : String) (attributes : List AttributeDeclaration)
  | entity (name : String) (value : EntityValue)
  | parameter (name : String) (value : EntityValue)
  | format (name : String) (id : ExternalId)
  | comment (content : String)
  | instruction (target : String) (data : Option String)
  /-- A reference to a parameter, whose text is not read. -/
  | unread (parameter : String)
  deriving Repr

/-- The document type that a document declares. -/
structure Doctype where
  name : String
  id : ExternalId := {}
  declarations : List Declaration := []
  deriving Repr

/-- A document as it is written. -/
structure WrittenDocument where
  heading : Option Heading := none
  /-- Comments and instructions before the document type. -/
  beforeType : List Written := []
  doctype : Option Doctype := none
  beforeRoot : List Written := []
  root : Written
  afterRoot : List Written := []

end Conformity.Markup

import Conformity.Data.Checked

/-!
# Occurrence overrides

An override changes how often the elements that refer to a declaration may occur. An occurrence that
is not given stays as it is.
-/

namespace Conformity

/-- New occurrence bounds for the references to one element. -/
structure Override where
  element : String
  minOccurs : Option String := none
  maxOccurs : Option String := none
  deriving DecidableEq, Repr

namespace Override

/-- Reads an override from a record. -/
def read (fields : Data.Fields) : Checked Override :=
  Checked.both
    (Checked.both ((fields.required ["element"] Data.asText).map Override.mk)
      (fields.optional ["minOccurs", "min_occurs"] none Data.asText?))
    (fields.optional ["maxOccurs", "max_occurs"] none Data.asText?)

/-- The override as one text. -/
def text (o : Override) : String :=
  ":".intercalate ([o.element] ++ (o.minOccurs.map ("min=" ++ ·)).toList ++
    (o.maxOccurs.map ("max=" ++ ·)).toList)

/-- The record of an override in a document. -/
def record (o : Override) : Data :=
  .ofEntries ([("element", .text o.element)] ++
    (o.minOccurs.map fun s => ("minOccurs", Data.text s)).toList ++
    (o.maxOccurs.map fun s => ("maxOccurs", Data.text s)).toList)

/-- An override with all its parts, as a record. -/
def toData (o : Override) : Data :=
  .ofEntries [("element", .text o.element), ("minOccurs", .ofText? o.minOccurs),
    ("maxOccurs", .ofText? o.maxOccurs)]

end Override

end Conformity

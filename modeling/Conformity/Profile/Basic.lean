import Conformity.Assertion
import Conformity.Override
import Conformity.Suppression.Rule
import Conformity.Table

/-!
# Profiles

A profile is a named bundle of suppression rules, occurrence overrides and custom assertions. A
profile may extend another one. As declared it holds its own entries; resolved, it holds the inherited
ones too.
-/

namespace Conformity

/-- Overrides by schema type. -/
abbrev Overrides := Table (List Override)

/-- Assertions by rule-set type. -/
abbrev Assertions := Table (List Assertion)

/-- A bundle of settings for a validation. -/
structure Profile where
  name : String
  description : String := ""
  parent : Option String := none
  rules : List SuppressionRule := []
  overrides : Overrides := []
  assertions : Assertions := []
  deriving DecidableEq, Repr

/-- Reads lists of records by type. -/
def readByType {α : Type} (read : Data.Fields → Checked α) (d : Data) : Checked (Table (List α)) :=
  Data.asMapping Data.asText (Data.asItems .notRow (Data.asRecord read)) d

/-- Lists of records by type, as rows of two. -/
def byTypeToData {α : Type} (toData : α → Data) (t : Table (List α)) : Data :=
  .ofList (t.map fun e => .ofList [.text e.1, .ofList (e.2.map toData)])

namespace Profile

/-- Reads a profile from a record. -/
def read (fields : Data.Fields) : Checked Profile :=
  Checked.both
    (Checked.both
      (Checked.both
        (Checked.both
          (Checked.both ((fields.required ["name"] Data.asText).map Profile.mk)
            (fields.optional ["description"] "" Data.asText))
          (fields.optional ["parent"] none Data.asText?))
        (fields.optional ["suppression_rules"] []
          (Data.asItems .notRow (Data.asRecord SuppressionRule.read))))
      (fields.optional ["xsd_overrides"] [] (readByType Override.read)))
    (fields.optional ["custom_assertions"] [] (readByType Assertion.read))

/-- A profile as a record. -/
def toData (p : Profile) : Data :=
  .ofEntries [("name", .text p.name), ("description", .text p.description),
    ("parent", .ofText? p.parent), ("rules", .ofList (p.rules.map SuppressionRule.toData)),
    ("overrides", byTypeToData Override.toData p.overrides),
    ("assertions", byTypeToData Assertion.toData p.assertions)]

/-- The overrides for a schema type. -/
def overridesFor (p : Profile) (type : String) : List Override := (p.overrides.get? type).getD []

/-- The assertions for a rule-set type. -/
def assertionsFor (p : Profile) (type : String) : List Assertion :=
  (p.assertions.get? type).getD []

/-- The profile that this one extends; a profile with an empty parent extends none. -/
def extends? (p : Profile) : Option String := p.parent.filter fun s => !s.isEmpty

end Profile

end Conformity

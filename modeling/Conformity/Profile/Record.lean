import Conformity.Data.Form
import Conformity.Profile.Basic

/-!
# Profile records

A document keeps each profile as a record under its name. A record has to fit a form; texts in it are
trimmed, assertions that are not complete and overrides without an element are left out, and so are
empty sections when a profile is written.
-/

namespace Conformity

/-! ## The form of a record -/

/-- A text, a number, or nothing. -/
def looseText : Form := .ofSort [.string, .number, .null]

/-- The form of a list of assertions. -/
def assertionsForm : Form :=
  .listOf [.array, .null]
    (.record [.object] []
      [("context", looseText), ("test", looseText), ("message", looseText), ("id", looseText)])

/-- The form of a list of overrides. -/
def overridesForm : Form :=
  .listOf [.array, .null]
    (.record [.object] []
      [("element", looseText), ("minOccurs", looseText), ("maxOccurs", looseText)])

/-- The form of a suppression rule. -/
def ruleForm : Form :=
  .record [.object] ["pattern"]
    [("match", .choice (MatchMode.all.map MatchMode.name)),
     ("pattern", .ofSort [.string, .number]),
     ("scope", .listOf [.array, .string, .null] (.ofSort [.string, .null])),
     ("description", looseText)]

/-- The section of the assertions, in a record and in a whole document. -/
def assertionsKey : String := "schematron-rules"

/-- The section of the overrides. -/
def overridesKey : String := "xsd-overrides"

/-- The form of a profile. -/
def profileForm : Form :=
  .record [.object, .null] []
    [("description", looseText), ("extends", .ofSort [.string, .null]),
     ("suppressions", .listOf [.array, .null] ruleForm),
     (overridesKey, .tableOf [.object, .null] overridesForm),
     (assertionsKey, .tableOf [.object, .null] assertionsForm)]

/-! ## Reading records -/

/-- The trimmed text of a value that is there. -/
def trimmedText? (d : Data) : Option String := if d.isNull then none else some (Text.trim d.plain)

/-- The trimmed text of a field that is there. -/
def fieldText? (name : String) (fields : Data.Fields) : Option String :=
  (Data.field name fields).bind trimmedText?

/-- Lists by type from a mapping of lists. Items that are no records are left out, and so are those
that `read` leaves out; of several keys with one trimmed text the last one counts. -/
def sectionOf {α : Type} (read : Data.Fields → Option α) (d : Data) : Table (List α) :=
  ((d.entries?).getD []).foldl
    (fun t (k, v) =>
      let items := ((v.items?).getD []).filterMap fun item => item.entries?.bind read
      if items.isEmpty then t else t.set (Text.trim k.plain) items)
    []

namespace Assertion

/-- Reads an assertion, if it is complete. -/
def ofRecord? (fields : Data.Fields) : Option Assertion :=
  let a : Assertion :=
    ⟨fieldText? "context" fields, fieldText? "test" fields, fieldText? "message" fields,
      fieldText? "id" fields⟩
  if a.isComplete then some a else none

end Assertion

namespace Override

/-- Reads an override, if it has an element. -/
def ofRecord? (fields : Data.Fields) : Option Override :=
  match fieldText? "element" fields with
  | some element =>
    if element.isEmpty then none
    else some ⟨element, fieldText? "minOccurs" fields, fieldText? "maxOccurs" fields⟩
  | none => none

end Override

/-- The assertions of a section. -/
def Assertions.ofSection (d : Data) : Assertions := sectionOf Assertion.ofRecord? d

/-- The overrides of a section. -/
def Overrides.ofSection (d : Data) : Overrides := sectionOf Override.ofRecord? d

namespace SuppressionRule

/-- The types of a scope, which is a list or a single text. -/
def scopeOf (d : Data) : List String :=
  let texts := match d with
    | .list _ items => items.filterMap trimmedText?
    | .scalar (.text s) => [Text.trim s]
    | _ => []
  Text.sortedSet (texts.filter (!·.isEmpty))

/-- Reads a rule whose record fits its form. -/
def ofRecord (fields : Data.Fields) : SuppressionRule :=
  { mode := ((Data.field "match" fields).bind fun d => d.text?.bind MatchMode.ofName?).getD .idPattern
    pattern := ((Data.field "pattern" fields).getD .null).plain
    scope := scopeOf ((Data.field "scope" fields).getD .null)
    description := fieldText? "description" fields }

/-- The record of a rule. -/
def record (r : SuppressionRule) : Data :=
  .ofEntries ([("match", .text r.mode.name), ("pattern", .text r.pattern)] ++
    (if r.isGlobal then [] else [("scope", Data.texts r.scope)]) ++
    (if hasText r.description then [("description", Data.ofText? r.description)] else []))

end SuppressionRule

/-- Why the record of a profile is refused. -/
inductive RecordFault where
  | misfits (told : List String)
  | route (fault : RouteFault)
  deriving DecidableEq, Repr

namespace Profile

/-- Reads a profile whose record fits its form. -/
def ofFields (name : String) (fields : Data.Fields) : Profile :=
  let part (key : String) : Data := (Data.field key fields).getD .null
  { name
    description := (fieldText? "description" fields).getD ""
    parent := (fieldText? "extends" fields).filter (!·.isEmpty)
    rules := (((part "suppressions").items?).getD []).filterMap fun item =>
      item.entries?.map SuppressionRule.ofRecord
    overrides := Overrides.ofSection (part overridesKey)
    assertions := Assertions.ofSection (part assertionsKey) }

/-- Reads a profile from its record. -/
def ofRecord (name : String) (d : Data) : Except RecordFault Profile :=
  match profileForm.misfits d with
  | [] => .ok (ofFields name ((d.entries?).getD []))
  | ms =>
    match Misfit.report ms with
    | .ok told => .error (.misfits told)
    | .error e => .error (.route e)

/-- A section of lists by type, in records. -/
def sectionRecord {α : Type} (record : α → Data) (t : Table (List α)) : Data :=
  .ofEntries (t.map fun e => (e.1, Data.ofList (e.2.map record)))

/-- The record of a profile. -/
def record (p : Profile) : Data :=
  .ofEntries
    ((if hasText (some p.description) then [("description", Data.text p.description)] else []) ++
      (if hasText p.parent then [("extends", Data.ofText? p.parent)] else []) ++
      (if p.rules.isEmpty then []
        else [("suppressions", Data.ofList (p.rules.map SuppressionRule.record))]) ++
      (if p.overrides.isEmpty then []
        else [(overridesKey, sectionRecord Override.record p.overrides)]) ++
      (if p.assertions.isEmpty then []
        else [(assertionsKey, sectionRecord Assertion.record p.assertions)]))

end Profile

end Conformity

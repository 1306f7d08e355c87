import Conformity.Finding
import Conformity.Markup.Guarded
import Conformity.Text.Blank

/-!
# Findings of a report

A run of a rule-set answers with a report. Two shapes are understood: the report language, where
failed assertions and successful reports follow the rules that fired, and plain `Error` elements. A
report that cannot be read becomes one finding that holds its text.
-/

namespace Conformity.Report

open Markup

/-- The namespace of the report language. -/
def space : String := "http://purl.oclc.org/dsdl/svrl"

/-- An attribute, if it is there and not blank. -/
def attribute? (base : String) (attributes : List Attribute) : Option String :=
  (Node.attribute? base attributes).filter fun v => !Text.isBlankText v

/-- The first child that is an explanation. -/
def explanation? (children : List Node) : Option Node :=
  children.find? fun n =>
    match n with
    | .element name _ _ _ => name.isIn space "text"
    | _ => false

/-- The message of an assertion: the words of its explanation. -/
def message (children : List Node) : String :=
  match explanation? children with
  | some n => Text.squeeze n.textContent
  | none => ""

/-- The rule that counts as fired after an element. -/
def fired (before : Option String) : Node → Option String
  | .element name _ attributes _ =>
    if name.isIn space "fired-rule" then attribute? "id" attributes else before
  | _ => before

/-- The finding that an element stands for, after a rule has fired. -/
def finding? (fired : Option String) : Node → Option Finding
  | .element name _ attributes children =>
    let test := attribute? "test" attributes
    if name.isIn space "failed-assert" || name.isIn space "successful-report" then
      some ⟨(attribute? "id" attributes).or fired, test, message children⟩
    else if name.isPlain "Error" then
      let text := Text.trim (Node.textOfAll children)
      if text.isEmpty then none else some ⟨attribute? "ruleId" attributes, test, text⟩
    else none
  | _ => none

/-- The findings of elements in document order, `rule` having fired before them. -/
def findingsFrom (rule : Option String) : List Node → List Finding
  | [] => []
  | n :: ns =>
    let rule := fired rule n
    (finding? rule n).toList ++ findingsFrom rule ns

/-- The findings of a tree. -/
def findingsOf (root : Node) : List Finding := findingsFrom none root.elements

/-- The text of an output, bytes being read leniently. -/
def text : Source → String
  | .chars cs => String.ofList cs
  | .bytes bs => String.ofList (Text.decodeLenient bs)

/-- The findings of an output. Only a fault of its declared character set makes this fail. -/
def findings (output : Source) : Except Refusal (List Finding) :=
  if Text.isBlankText (text output) then .ok []
  else
    match Guarded.read output with
    | .ok root => .ok (findingsOf root)
    | .error .unreadable => .ok [{ message := Text.trim (text output) }]
    | .error r => .error r

end Conformity.Report

import Conformity.Assertion
import Conformity.Digest
import Conformity.Markup.Edit
import Conformity.Markup.Faithful
import Conformity.Markup.Printed
import Conformity.Profile.Identifier
import Conformity.Text.Comment

/-!
# Custom assertions in a rule-set

Custom assertions become one more pattern at the end of a rule-set source, behind a comment that tells
where they come from. Assertions with the same context share a rule; the rules come in the order in
which their contexts first occur.
-/

namespace Conformity

open Markup

/-- The namespace of rule-set sources. -/
def ruleSpace : String := "http://purl.oclc.org/dsdl/schematron"

/-- The source of a rule-set, and the place that what it refers to is looked up from. -/
structure RuleSource where
  content : Bytes
  base : Option String := none
  deriving DecidableEq, Repr

/-- The digest of a source. -/
def RuleSource.hash (s : RuleSource) : String := Digest.sha256 s.content

/-- A source as a record. -/
def RuleSource.toData (bytes : Bytes → Data) (s : RuleSource) : Data :=
  .ofEntries [("content", bytes s.content), ("base", .ofText? s.base), ("hash", .text s.hash)]

/-- A custom assertion that has all that a check needs. -/
structure Check where
  context : String
  test : String
  message : String
  id : Option String := none
  deriving DecidableEq, Repr

/-- The check that an assertion asks for, if it is complete. A blank id counts as none. -/
def Assertion.check? (a : Assertion) : Option Check :=
  if a.isComplete then
    match a.context, a.test, a.message with
    | some context, some test, some message =>
      some ⟨context, test, message, a.id.filter fun s => !Text.isBlankText s⟩
    | _, _, _ => none
  else none

namespace Injection

/-- Why assertions cannot be injected. -/
inductive Fault where
  | malformed
  | unwritable (fault : Unwritable)

/-- The wording of a fault. -/
def Fault.message : Fault → String
  | malformed => "Rule-set source is not well-formed"
  | unwritable f => f.message

/-- Checks by context, in the order in which the contexts first occur. -/
def grouped (checks : List Check) : Table (List Check) :=
  checks.foldl (fun t c => t.alter c.context fun cs => cs.getD [] ++ [c]) []

/-- An attribute in no namespace. -/
def attributeOf (base value : String) : Except Unwritable Attribute := do
  return { name := { base }, value := ← writable value }

/-- The name of an element of the rule language. -/
def nameOf (qualifier : Option String) (base : String) : Name := ⟨some ruleSpace, qualifier, base⟩

/-- The element for a check. -/
def checkNode (qualifier : Option String) (c : Check) : Except Unwritable Node := do
  let test ← attributeOf "test" c.test
  let id ← c.id.toList.mapM (attributeOf "id")
  let message ← writable c.message
  return .element (nameOf qualifier "assert") [] (test :: id) [.text message]

/-- The element for the checks of one context. -/
def ruleNode (qualifier : Option String) (group : String × List Check) :
    Except Unwritable Node := do
  let context ← attributeOf "context" group.1
  let checks ← group.2.mapM (checkNode qualifier)
  return .element (nameOf qualifier "rule") [] [context] checks

/-- The comment that tells where the assertions come from. -/
def provenance (name : Option String) (generated : String) (count : Nat) : String :=
  let text := " Custom Schematron rules, profile: " ++ name.getD "None" ++ ", generated: " ++
    generated ++ ", " ++ toString count ++ " assertion(s) "
  String.ofList (commentSafe text.toList)

/-- The id of the pattern for a profile. -/
def patternId (name : Option String) : String := "custom-rules-" ++ safeIdentifier name

/-- What is put behind the children of a root with some declarations. -/
def addition (declared : List SpaceDeclaration) (checks : List Check) (name : Option String)
    (generated : String) : Except Unwritable (List Node) := do
  let comment ← writable (provenance name generated checks.length)
  let (qualifier, new) := qualifierFor ruleSpace [declared]
  let id ← attributeOf "id" (patternId name)
  let rules ← (grouped checks).mapM (ruleNode qualifier)
  return [.comment comment, .element (nameOf qualifier "pattern") new [id] rules]

/-- A rule-set source with assertions added; those that are not complete are passed over. -/
def inject (source : RuleSource) (assertions : List Assertion) (name : Option String)
    (generated : String) : Except Fault RuleSource :=
  match Faithful.read? source.content with
  | none => .error .malformed
  | some d =>
    match addition d.root.declared (assertions.filterMap Assertion.check?) name generated with
    | .error f => .error (.unwritable f)
    | .ok new => .ok { source with content := { d with root := d.root.append new }.bytes }

end Injection

end Conformity

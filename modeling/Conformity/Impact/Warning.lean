import Conformity.Data.Value
import Conformity.Impact.Similar
import Conformity.Markup.Guarded
import Conformity.Profile.Basic
import Conformity.Text.Blank
import Conformity.Text.Order

/-!
# Affected suppressions

The patterns, rules, assertions and reports of a rule-set source carry identifiers, whatever namespace
their elements are in, and two versions of a source are compared by them. A suppression rule that looks at
rule ids stops working when the ids it matches are removed. Each removed id gives a warning for each rule
that matched it, with the id that it may have been renamed to.
-/

namespace Conformity.Impact

open Markup

/-! ## Rule identifiers -/

/-- The elements that carry rule identifiers. -/
def idCarriers : List String := ["pattern", "rule", "assert", "report"]

/-- The rule identifier that an element carries. -/
def ruleId? : Node → Option String
  | .element name _ attributes _ =>
    if idCarriers.contains name.base then
      ((Node.attribute? "id" attributes).map Text.trim).filter fun id => !id.isEmpty
    else none
  | _ => none

/-- The rule identifiers of a tree, in order. -/
def ruleIdsOf (root : Node) : List String := Text.sortedSet (root.elements.filterMap ruleId?)

/-- The rule identifiers of a source; none if there is no source or it cannot be read. -/
def ruleIds (source : Option Bytes) : Except Refusal (List String) :=
  match source.getD [] with
  | [] => .ok []
  | bs =>
    match Guarded.read (.bytes bs) with
    | .ok root => .ok (ruleIdsOf root)
    | .error .unreadable => .ok []
    | .error r => .error r

/-- How the identifiers of two versions differ. -/
structure IdChange where
  removed : List String
  added : List String
  retained : List String
  deriving DecidableEq, Repr

namespace IdChange

/-- The change from old to new identifiers. -/
def between (old new : List String) : IdChange where
  removed := old.filter fun id => !new.contains id
  added := new.filter fun id => !old.contains id
  retained := old.filter new.contains

/-- Is there any difference? -/
def isChange (c : IdChange) : Bool := !c.removed.isEmpty || !c.added.isEmpty

/-- The change between two sources. -/
def ofSources (old new : Option Bytes) : Except Refusal IdChange := do
  let olds ← ruleIds old
  return between olds (← ruleIds new)

/-- A change as a record. -/
def toData (c : IdChange) : Data :=
  .ofEntries [("removed", .texts c.removed), ("added", .texts c.added),
    ("retained", .texts c.retained), ("hasChanges", .bool c.isChange)]

end IdChange

/-! ## Warnings -/

/-- A suppression rule affected by the removal of a rule id. -/
structure Warning where
  ruleId : String
  profileName : String
  pattern : String
  /-- The id that may have taken the place of the removed one. -/
  successor : Option String := none
  deriving DecidableEq, Repr

namespace Warning

/-- How grave the warning is: a rename is for a person to check, a removal is certain. -/
def severity (w : Warning) : String := if w.successor.isSome then "warning" else "critical"

/-- The wording of a warning. -/
def message (w : Warning) : String :=
  "Suppression " ++ Text.quoted w.pattern ++ " of profile " ++ Text.quoted w.profileName ++
    " targets rule id " ++ Text.quoted w.ruleId ++ ", " ++
    match w.successor with
    | some id =>
      "which may have been renamed (possible new id: " ++ Text.quoted id ++ "); check it manually."
    | none => "which was removed in the new version; the suppression no longer has any effect."

/-- A warning as a record. -/
def toData (w : Warning) : Data :=
  .ofEntries [("ruleId", .text w.ruleId), ("profileName", .text w.profileName),
    ("pattern", .text w.pattern), ("severity", .text w.severity), ("message", .text w.message),
    ("possibleNewId", .ofText? w.successor)]

end Warning

/-- Does a pattern of a mode match a rule id? A pattern that is malformed stands for its own text. -/
def patternMatches (mode : MatchMode) (pattern id : String) : Except PatternLimit Bool :=
  if mode.isLiteral then .ok (pattern == id)
  else
    match readPattern mode pattern with
    | .ok e => .ok (e.accepts id)
    | .error (.malformed _) => .ok (pattern == id)
    | .error (.limit l) => .error l

/-- The rules of profiles that look at rule ids, each with the name of its profile. -/
def idRules (profiles : List Profile) : List (String × SuppressionRule) :=
  profiles.flatMap fun p => (p.rules.filter fun r => r.mode.isIdMode).map fun r => (p.name, r)

/-- The successor of a removed id, which must not be empty. -/
def successor? (t : Tolerance) (removed : String) (added : List String) : Option String :=
  (similarId t removed added).filter fun id => !id.isEmpty

/-- The warning about one rule and one removed id, if there is any. -/
def warning? (t : Tolerance) (change : IdChange) (removed : String) (e : String × SuppressionRule) :
    Except PatternLimit (Option Warning) := do
  if ← patternMatches e.2.mode e.2.pattern removed then
    return some ⟨removed, e.1, e.2.pattern, successor? t removed change.added⟩
  else return none

/-- The warnings about a change, by removed id and then by rule. -/
def warnings (t : Tolerance) (profiles : List Profile) (change : IdChange) :
    Except PatternLimit (List Warning) := do
  let found ← change.removed.mapM fun removed =>
    (idRules profiles).mapM fun e => warning? t change removed e
  return found.flatten.filterMap id

end Conformity.Impact

import Conformity.Finding
import Conformity.Regex.Match
import Conformity.Regex.Parser
import Conformity.Text.Order

/-!
# Suppression rules

A suppression rule looks at one field of a finding: the rule id, the test or the message. Its pattern is
either the exact text of the field or a regular expression; the pattern of an exact mode is escaped, so
that it matches its own text only. Either way a pattern has to match the whole of a text. A rule with a
scope holds only while one of the rule-set or schema types in its scope is in play.
-/

namespace Conformity

/-! ## Match modes -/

/-- What a suppression pattern is compared with, and how. -/
inductive MatchMode where
  | idExact
  | idPattern
  | testExact
  | testPattern
  | textPattern
  deriving DecidableEq, Repr

namespace MatchMode

/-- All modes, in the order in which they are listed. -/
def all : List MatchMode := [idExact, idPattern, testExact, testPattern, textPattern]

/-- The name of a mode in documents. -/
def name : MatchMode → String
  | idExact => "ruleIdEquals"
  | idPattern => "ruleId"
  | testExact => "testEquals"
  | testPattern => "test"
  | textPattern => "text"

/-- The mode with a name. -/
def ofName? (s : String) : Option MatchMode := all.find? fun m => m.name == s

/-- Is the pattern of this mode an exact text? -/
def isLiteral : MatchMode → Bool
  | idExact | testExact => true
  | _ => false

/-- Does this mode look at rule ids? -/
def isIdMode : MatchMode → Bool
  | idExact | idPattern => true
  | _ => false

/-- The field of a finding that this mode looks at. -/
def target (mode : MatchMode) (f : Finding) : Option String :=
  match mode with
  | idExact | idPattern => f.ruleId
  | testExact | testPattern => f.test
  | textPattern => some f.message

end MatchMode

/-! ## Patterns -/

/-- A pattern that is no regular expression. -/
structure PatternFault where
  pattern : String
  cause : Regex.Cause
  position : Option Nat

/-- The wording of a pattern's refusal. -/
def PatternFault.message (f : PatternFault) : String :=
  "Invalid suppression pattern " ++ Text.quoted f.pattern ++ ": " ++
    (Regex.Fault.malformed f.cause f.position).message f.pattern.toList

/-- A pattern that cannot be used for a reason other than its form. -/
inductive PatternLimit where
  /-- A repetition number is too large. -/
  | repeatTooLarge
  /-- Two options exclude each other. -/
  | flagConflict
  deriving DecidableEq, Repr

/-- The wording of a limit. -/
def PatternLimit.message : PatternLimit → String
  | repeatTooLarge => Regex.Fault.repeatTooLarge.message []
  | flagConflict => Regex.Fault.flagConflict.message []

/-- Why a pattern has no matcher. -/
inductive PatternRefusal where
  | malformed (fault : PatternFault)
  | limit (limit : PatternLimit)

/-- The refusal of a pattern that a fault stands for. -/
def PatternRefusal.ofFault (pattern : String) : Regex.Fault → PatternRefusal
  | .malformed cause position => .malformed ⟨pattern, cause, position⟩
  | .repeatTooLarge => .limit .repeatTooLarge
  | .flagConflict => .limit .flagConflict

/-- Reads the pattern of a mode. -/
def readPattern (mode : MatchMode) (pattern : String) : Except PatternRefusal Regex.Expr :=
  let text := if mode.isLiteral then Regex.literalPattern pattern.toList else pattern.toList
  match Regex.parse text with
  | .ok e => .ok e
  | .error f => .error (.ofFault pattern f)

/-- Does a pattern match the whole of a text? -/
def Regex.Expr.accepts (e : Regex.Expr) (s : String) : Bool := e.matchesAll s.toList

/-! ## Rules -/

/-- A rule of a profile. -/
structure SuppressionRule where
  mode : MatchMode := .idPattern
  pattern : String
  /-- The types the rule is limited to, each once and in order; none if it holds everywhere. -/
  scope : List String := []
  description : Option String := none
  deriving DecidableEq, Repr

namespace SuppressionRule

/-- Reads a rule from a record. -/
def read (fields : Data.Fields) : Checked SuppressionRule :=
  Checked.both
    (Checked.both
      (Checked.both
        ((fields.optional ["match"] .idPattern (Data.asName MatchMode.ofName?)).map
          SuppressionRule.mk)
        (fields.required ["pattern"] Data.asText))
      ((fields.optional ["scope"] [] (Data.asItems .notSet Data.asText)).map Text.sortedSet))
    (fields.optional ["description"] none Data.asText?)

/-- A rule with all its parts, as a record. -/
def toData (r : SuppressionRule) : Data :=
  .ofEntries [("match", .text r.mode.name), ("pattern", .text r.pattern), ("scope", .texts r.scope),
    ("description", .ofText? r.description)]

/-- Does the rule hold everywhere? -/
def isGlobal (r : SuppressionRule) : Bool := r.scope.isEmpty

end SuppressionRule

/-! ## Matchers -/

/-- A rule that is ready to be applied. -/
structure Matcher where
  mode : MatchMode
  pattern : Regex.Expr
  scope : List String := []
  description : Option String := none

namespace Matcher

/-- What a matcher is for, as a record. -/
def toData (m : Matcher) : Data :=
  .ofEntries [("mode", .text m.mode.name), ("scope", .texts m.scope),
    ("description", .ofText? m.description)]

/-- Does the matcher hold while some types are in play? -/
def inScope (active : List String) (m : Matcher) : Bool :=
  m.scope.isEmpty || m.scope.any active.contains

/-- Does the matcher match a finding? -/
def accepts (m : Matcher) (f : Finding) : Bool := (m.mode.target f).any m.pattern.accepts

/-- Makes a rule ready to be applied. -/
def ofRule (r : SuppressionRule) : Except PatternRefusal Matcher :=
  (readPattern r.mode r.pattern).map fun e => ⟨r.mode, e, r.scope, r.description⟩

/-- Makes rules ready to be applied, in order. Blank patterns are dropped, and malformed ones are
reported instead; a pattern beyond a limit ends the work. -/
def ofRules : List SuppressionRule → Except PatternLimit (List Matcher × List PatternFault)
  | [] => .ok ([], [])
  | r :: rs =>
    if Text.isBlankText r.pattern then ofRules rs
    else
      match ofRule r with
      | .ok m => (ofRules rs).map fun p => (m :: p.1, p.2)
      | .error (.malformed f) => (ofRules rs).map fun p => (p.1, f :: p.2)
      | .error (.limit l) => .error l

end Matcher

end Conformity

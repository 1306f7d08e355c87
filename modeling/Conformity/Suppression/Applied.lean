import Conformity.Suppression.Rule
import Conformity.Text.Cut

/-!
# Applying suppression rules

The rules in force for a request are those of its profile that are in scope, and those of its ad-hoc
directives: `test:` in front of an exact test, `text:` in front of a regular expression for messages,
anything else being an exact rule id. A finding that one of the rules matches is suppressed; the two parts
together are the findings given. Plain error texts are held against message patterns only.
-/

namespace Conformity.AdHoc

/-! ## Ad-hoc directives -/

/-- The description of the rules that directives make. -/
def description : String := "Ad-hoc suppression"

/-- The mode and the pattern of a trimmed directive. -/
def split (cs : List Char) : MatchMode × List Char :=
  match Text.after? "test:".toList cs with
  | some rest => (.testExact, Text.trimChars rest)
  | none =>
    match Text.after? "text:".toList cs with
    | some rest => (.textPattern, Text.trimChars rest)
    | none => (.idExact, cs)

/-- The matcher of one directive; none if it is blank, has no pattern or a malformed one. -/
def matcher? (directive : String) : Except PatternLimit (Option Matcher) :=
  let (mode, pattern) := split (Text.trimChars directive.toList)
  if pattern.isEmpty then .ok none
  else
    match readPattern mode (String.ofList pattern) with
    | .ok e => .ok (some ⟨mode, e, [], some description⟩)
    | .error (.malformed _) => .ok none
    | .error (.limit l) => .error l

/-- The matchers of directives in order. -/
def matchers : List (Option String) → Except PatternLimit (List Matcher)
  | [] => .ok []
  | none :: ds => matchers ds
  | some d :: ds => do
    let m ← matcher? d
    return m.toList ++ (← matchers ds)

end Conformity.AdHoc

namespace Conformity.Suppression

/-! ## Requests -/

/-- What a request asks to suppress. -/
structure Request where
  profileName : Option String := none
  adHoc : List (Option String) := []
  /-- The rule-set and schema types in play. -/
  active : List String := []

/-- The rules in force; `rulesOf` gives those of a profile, if there is such a profile. -/
def gather (rulesOf : String → Option (List Matcher)) (r : Request) :
    Except PatternLimit (List Matcher) := do
  let own :=
    match r.profileName with
    | some name =>
      if Text.isBlankText name then [] else ((rulesOf name).getD []).filter (·.inScope r.active)
    | none => []
  return own ++ (← AdHoc.matchers r.adHoc)

/-- Divides findings into active and suppressed ones. -/
def divide (rules : List Matcher) (profileName : Option String) (findings : List Finding) :
    Partition :=
  let parts := findings.partition fun f => rules.any (·.accepts f)
  ⟨parts.2, parts.1, profileName⟩

/-- Divides findings by the rules in force. -/
def apply (rulesOf : String → Option (List Matcher)) (r : Request) (findings : List Finding) :
    Except PatternLimit Partition :=
  if findings.isEmpty then .ok { profileName := r.profileName }
  else (gather rulesOf r).map fun rules => divide rules r.profileName findings

/-- The texts that no message pattern among the rules matches. -/
def keepTexts (rules : List Matcher) (texts : List String) : List String :=
  let rules := rules.filter (·.mode == .textPattern)
  texts.filter fun s => !rules.any fun m => m.pattern.accepts s

/-- The texts that the rules in force leave. -/
def applyTexts (rulesOf : String → Option (List Matcher)) (r : Request) (texts : List String) :
    Except PatternLimit (List String) :=
  if texts.isEmpty then .ok [] else (gather rulesOf r).map fun rules => keepTexts rules texts

end Conformity.Suppression

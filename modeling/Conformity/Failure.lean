import Conformity.Cache.Basic
import Conformity.Diagnostic.Basic
import Conformity.Engine.Basic
import Conformity.Markup.Guarded
import Conformity.Profile.Inheritance
import Conformity.Profile.Record
import Conformity.Suppression.Rule
import Conformity.Yaml.Fault

/-!
# Failures

Everything that can end a request, told apart by cause. Each cause has its wording. Three families
matter to the rest of the library: failures of its own, refused values, and failures of the file
system; a caller that is content with one family lets the others pass.
-/

namespace Conformity

/-- Why a source could not be compiled. -/
inductive CompilationCause where
  | malformedRuleSource
  | malformedStylesheet
  | malformedSchema
  /-- A stage rejected a rule-set. -/
  | stage (ruleSet : String) (stage : Stage) (reason : String)
  /-- The generated stylesheet of a rule-set was rejected. -/
  | generated (ruleSet reason : String)
  /-- A stylesheet that was compiled before was rejected. -/
  | precompiled (ruleSet reason : String)
  | schema (type reason : String)
  deriving DecidableEq, Repr

namespace CompilationCause

/-- The wording of a cause. -/
def message : CompilationCause → String
  | malformedRuleSource => "Rule source is not well-formed"
  | malformedStylesheet => "Generated stylesheet is not well-formed"
  | malformedSchema => "Schema source is not well-formed"
  | stage name s reason => "Rule-set " ++ name ++ " failed in " ++ s.name ++ " stage: " ++ reason
  | generated name reason => "Generated stylesheet for " ++ name ++ " does not compile: " ++ reason
  | precompiled name reason =>
    "Pre-compiled stylesheet " ++ name ++ " does not compile: " ++ reason
  | schema type reason => "Schema " ++ type ++ " does not compile: " ++ reason

/-- The part of the work that the cause belongs to. -/
def part : CompilationCause → String
  | malformedRuleSource | malformedStylesheet => "parameters"
  | malformedSchema => "overrides"
  | stage _ s _ => s.name
  | generated .. | precompiled .. => "compile"
  | schema .. => "schema"

end CompilationCause

/-- A source that could not be compiled. -/
structure CompilationFault where
  cause : CompilationCause
  diagnostics : List Diagnostic := []
  deriving DecidableEq, Repr

/-- The wording of a compilation fault, with its diagnostics. -/
def CompilationFault.message (f : CompilationFault) : String :=
  if f.diagnostics.isEmpty then f.cause.message
  else
    f.cause.message ++ " (" ++ toString f.diagnostics.length ++ " diagnostic(s)): " ++
      Diagnostic.joined f.diagnostics

/-- Something that is asked for and not there. -/
inductive Unavailable where
  | noRuleSet (type : String)
  | missingRuleSet (type path : String)
  /-- A rule-set that comes compiled takes no assertions. -/
  | fixedRuleSet (type : String)
  | ruleSetNotLoaded (type : String)
  | run (type reason : String)
  | noSchema (type : String)
  | missingSchema (type path : String)
  | schemaNotLoaded (type : String)
  | malformedProfiles (path : String)
  | profilesNoMapping (path : String)
  deriving DecidableEq, Repr

/-- The wording of what is not there. -/
def Unavailable.message : Unavailable → String
  | noRuleSet type => "No rule-set configured for " ++ type
  | missingRuleSet type path => type ++ " source not found: " ++ path
  | fixedRuleSet type =>
    type ++ " is a pre-compiled stylesheet and does not support custom assertions"
  | ruleSetNotLoaded type => "Rule-set " ++ type ++ " is not loaded; reload the assets first"
  | run type reason => "Running rule-set " ++ type ++ " failed: " ++ reason
  | noSchema type => "No schema configured for " ++ type
  | missingSchema type path => type ++ " schema not found: " ++ path
  | schemaNotLoaded type => "Schema " ++ type ++ " is not loaded; reload the assets first"
  | malformedProfiles path => "Invalid YAML in " ++ path
  | profilesNoMapping path => path ++ " must contain a mapping at the top level"

/-- A value that is refused. -/
inductive Refused where
  /-- A name that is none of a family's. -/
  | notAmong (family name : String)
  | outside (path : String)
  | nulInPath
  /-- The top folder has no name. -/
  | nameless
  | unwritable
  | blankProfile
  | flagConflict
  | multiByteCharset
  | cacheTooSmall
  | configuration (path : String) (isSyntax : Bool)
  deriving DecidableEq, Repr

/-- The wording of a refusal. -/
def Refused.message : Refused → String
  | notAmong family name => Text.quoted name ++ " is not a valid " ++ family
  | outside path => "Asset path escapes storage root: " ++ path
  | nulInPath => "embedded null byte"
  | nameless => "PosixPath('/') has an empty name"
  | unwritable =>
    "All strings must be XML compatible: Unicode or ASCII, no NULL bytes or control characters"
  | blankProfile => "Profile name must not be blank"
  | flagConflict => PatternLimit.flagConflict.message
  | multiByteCharset => Markup.Refusal.multiByteCharset.message
  | cacheTooSmall => "max_size must be >= 1"
  | configuration path true => "Invalid JSON in config file " ++ path
  | configuration path false => "Failed to load config from " ++ path

/-- What the file system refuses. -/
inductive SystemFault where
  | notFound
  | exists
  | notFolder
  | isFolder
  | notEmpty
  | nameTooLong
  deriving DecidableEq, Repr

namespace SystemFault

/-- The number of a fault. -/
def number : SystemFault → Nat
  | notFound => 2
  | .exists => 17
  | notFolder => 20
  | isFolder => 21
  | nameTooLong => 36
  | notEmpty => 39

/-- The wording of a fault. -/
def message (f : SystemFault) : String := "[Errno " ++ toString f.number ++ "]"

end SystemFault

/-- Why a request fails. -/
inductive Failure where
  | unavailable (what : Unavailable)
  | compilation (fault : CompilationFault)
  /-- A rule-set source that cannot be added to. -/
  | injection
  | inheritance (fault : InheritanceFault)
  /-- A computation for a key of a cache failed. -/
  | computation (fault : ComputationFault)
  | engine (fault : EngineFault)
  /-- A record of a profile has a wrong form in some places. -/
  | record (profile : String) (complaints : List String)
  | refused (value : Refused)
  | unknownCharset (label : String)
  | repeatTooLarge
  /-- The places of misfits cannot be told. -/
  | route (fault : RouteFault)
  /-- A scalar of a document whose text is not of its kind. -/
  | unreadable (cause : Yaml.Unreadable)
  /-- A file that is not there, with the place where it was looked for. -/
  | missing (path place : String)
  | system (fault : SystemFault)
  deriving DecidableEq, Repr

namespace Failure

/-- The wording of a failure. -/
def message : Failure → String
  | unavailable u => u.message
  | compilation f => f.message
  | injection => "Rule-set source is not well-formed"
  | inheritance f => f.message
  | computation f => f.message
  | engine f => f.message
  | record profile complaints =>
    profile ++ ": invalid profile record: " ++ "; ".intercalate complaints
  | refused r => r.message
  | unknownCharset label => (Markup.Refusal.unknownCharset label).message
  | repeatTooLarge => PatternLimit.repeatTooLarge.message
  | route f => f.message
  | unreadable c => c.message
  | missing path place => "Asset not found: " ++ path ++ " -> " ++ place
  | system f => f.message

/-- Is this a failure of the library's own? -/
def isOwn : Failure → Bool
  | unavailable _ | compilation _ | injection | inheritance _ | computation _ | engine _
  | record .. => true
  | _ => false

/-- Is this a refused value? -/
def isRefused : Failure → Bool
  | refused _ => true
  | unreadable c =>
    match c with
    | .truth _ | .empty => false
    | _ => true
  | _ => false

/-- Is this a failure of the file system? -/
def isSystem : Failure → Bool
  | missing .. | system _ => true
  | _ => false

/-- The diagnostics that come with a failure. -/
def diagnostics : Failure → List Diagnostic
  | compilation f => f.diagnostics
  | engine f => f.diagnostics
  | _ => []

/-- The part of the work that failed. -/
def part? : Failure → Option String
  | compilation f => some f.cause.part
  | _ => none

/-- The failure that a limit of patterns stands for. -/
def ofLimit : PatternLimit → Failure
  | .repeatTooLarge => repeatTooLarge
  | .flagConflict => refused .flagConflict

/-- The failure of reading the record of a profile. -/
def ofRecord (profile : String) : RecordFault → Failure
  | .misfits told => record profile told
  | .route f => route f

/-- The failure of reading the document of the profiles. -/
def ofDocument (path : String) : Yaml.Fault → Failure
  | .malformed => unavailable (.malformedProfiles path)
  | .unreadable c => unreadable c

/-- The failure that a refusal of a report stands for. -/
def ofRefusal : Markup.Refusal → Failure
  | .unknownCharset label => unknownCharset label
  | _ => refused .multiByteCharset

end Failure

end Conformity

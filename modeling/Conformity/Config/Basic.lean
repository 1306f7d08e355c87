import Conformity.Data.Checked
import Conformity.Impact.Similar
import Conformity.Text.Numeral
import Conformity.Text.Quoted

/-!
# Configuration

The families of rule-sets and schemas that can be configured, each under its name, and the settings of
the program by section, each with a default. A field is known under its name in documents and under a
second one; sections ignore fields they do not know, the configuration as a whole refuses them.
-/

namespace Conformity

/-! ## Families of rule-sets and schemas -/

/-- The families of rule-sets, one for each category of documents. -/
inductive RuleSetType where
  | ubltrMain
  | earchiveReport
  | edefterYevmiye
  | edefterKebir
  | edefterBerat
  | edefterRapor
  | envanterBerat
  | envanterDefter
  deriving DecidableEq, Repr

namespace RuleSetType

/-- All families. -/
def all : List RuleSetType :=
  [ubltrMain, earchiveReport, edefterYevmiye, edefterKebir, edefterBerat, edefterRapor,
    envanterBerat, envanterDefter]

/-- The name of a family. -/
def name : RuleSetType → String
  | ubltrMain => "UBLTR_MAIN"
  | earchiveReport => "EARCHIVE_REPORT"
  | edefterYevmiye => "EDEFTER_YEVMIYE"
  | edefterKebir => "EDEFTER_KEBIR"
  | edefterBerat => "EDEFTER_BERAT"
  | edefterRapor => "EDEFTER_RAPOR"
  | envanterBerat => "ENVANTER_BERAT"
  | envanterDefter => "ENVANTER_DEFTER"

/-- The family with a name. -/
def ofName? (s : String) : Option RuleSetType := all.find? fun t => t.name == s

end RuleSetType

/-- The types of documents that have a schema. -/
inductive SchemaType where
  | invoice
  | despatchAdvice
  | receiptAdvice
  | creditNote
  | applicationResponse
  | earchive
  | edefter
  deriving DecidableEq, Repr

namespace SchemaType

/-- All document types. -/
def all : List SchemaType :=
  [invoice, despatchAdvice, receiptAdvice, creditNote, applicationResponse, earchive, edefter]

/-- The name of a document type. -/
def name : SchemaType → String
  | invoice => "INVOICE"
  | despatchAdvice => "DESPATCH_ADVICE"
  | receiptAdvice => "RECEIPT_ADVICE"
  | creditNote => "CREDIT_NOTE"
  | applicationResponse => "APPLICATION_RESPONSE"
  | earchive => "EARCHIVE"
  | edefter => "EDEFTER"

/-- The document type with a name. -/
def ofName? (s : String) : Option SchemaType := all.find? fun t => t.name == s

end SchemaType

/-- How a rule-set comes. -/
inductive RuleSetKind where
  /-- Declarative rules, to be compiled. -/
  | source
  /-- A stylesheet that is used as it is. -/
  | stylesheet
  deriving DecidableEq, Repr

namespace RuleSetKind

/-- The name of a kind. -/
def name : RuleSetKind → String
  | source => "source"
  | stylesheet => "xsl"

/-- The kind with a name. -/
def ofName? (s : String) : Option RuleSetKind := [source, stylesheet].find? fun k => k.name == s

end RuleSetKind

/-- How much is logged. -/
inductive LogLevel where
  | error
  | warn
  | info
  | debug
  deriving DecidableEq, Repr

namespace LogLevel

/-- The name of a level. -/
def name : LogLevel → String
  | error => "error"
  | warn => "warn"
  | info => "info"
  | debug => "debug"

/-- The level with a name. -/
def ofName? (s : String) : Option LogLevel :=
  [error, warn, info, debug].find? fun l => l.name == s

end LogLevel

/-! ## Settings -/

namespace Config

/-- Where assets are kept. -/
structure Assets where
  root : String := "assets"
  generatedDir : String := "auto-generated"
  profilesFile : String := "validation-profiles.yml"
  deriving DecidableEq, Repr

/-- Where a rule-set is kept, and how it comes. -/
structure RuleSet where
  path : String
  kind : RuleSetKind := .source
  deriving DecidableEq, Repr

/-- The limits of the caches: how many results, for how many seconds. -/
structure Caches where
  ruleMaxSize : Nat := 50
  ruleTtlSeconds : Nat := 3600
  overrideMaxSize : Nat := 50
  overrideTtlSeconds : Nat := 3600
  deriving DecidableEq, Repr

/-- How rule-sets are compiled. -/
structure Compiler where
  phase : String := "#ALL"
  allowForeign : Bool := true
  /-- The top-level names that a caller may set at run time. -/
  parameterAllowList : List String := ["type"]
  defaultSubtype : String := "efatura"
  deriving DecidableEq, Repr

/-- The rule-sets known without any configuration. -/
def defaultRuleSets : List (RuleSetType × RuleSet) :=
  let ledger (file : String) : RuleSet := { path := "validator/eledger/schematron/" ++ file }
  [(.ubltrMain, { path := "validator/ubl-tr-package/schematron/UBL-TR_Main_Schematron.xml" }),
   (.earchiveReport,
     { path := "validator/earchive/schematron/earsiv_schematron.xsl", kind := .stylesheet }),
   (.edefterYevmiye, ledger "edefter_yevmiye.sch"),
   (.edefterKebir, ledger "edefter_kebir.sch"),
   (.edefterBerat, ledger "edefter_berat.sch"),
   (.edefterRapor, ledger "edefter_rapor.sch"),
   (.envanterBerat, ledger "envanter_berat.sch"),
   (.envanterDefter, ledger "envanter_defter.sch")]

/-- The schemas known without any configuration. -/
def defaultSchemas : List (SchemaType × String) :=
  let maindoc (file : String) : String := "validator/ubl-tr-package/schema/maindoc/" ++ file
  [(.invoice, maindoc "UBL-Invoice-2.1.xsd"),
   (.despatchAdvice, maindoc "UBL-DespatchAdvice-2.1.xsd"),
   (.receiptAdvice, maindoc "UBL-ReceiptAdvice-2.1.xsd"),
   (.creditNote, maindoc "UBL-CreditNote-2.1.xsd"),
   (.applicationResponse, maindoc "UBL-ApplicationResponse-2.1.xsd"),
   (.earchive, "validator/earchive/schema/EArsiv.xsd"),
   (.edefter, "validator/eledger/schema/edefter.xsd")]

end Config

/-- The whole configuration. -/
structure Config where
  assets : Config.Assets := {}
  ruleSets : List (RuleSetType × Config.RuleSet) := Config.defaultRuleSets
  schemas : List (SchemaType × String) := Config.defaultSchemas
  caches : Config.Caches := {}
  compiler : Config.Compiler := {}
  impact : Impact.Tolerance := {}
  logLevel : LogLevel := .info
  deriving DecidableEq, Repr

namespace Config

/-! ## Reading -/

/-- Reads the section on assets. -/
def Assets.read (fields : Data.Fields) : Checked Assets :=
  Checked.both
    (Checked.both ((fields.optional ["root"] "assets" Data.asText).map Assets.mk)
      (fields.optional ["generatedDir", "generated_dir"] "auto-generated" Data.asText))
    (fields.optional ["profilesFile", "profiles_file"] "validation-profiles.yml" Data.asText)

/-- Reads the entry of a rule-set. -/
def RuleSet.read (fields : Data.Fields) : Checked RuleSet :=
  Checked.both ((fields.required ["path"] Data.asText).map RuleSet.mk)
    (fields.optional ["kind"] .source (Data.asName RuleSetKind.ofName?))

/-- Reads a number that is not below `least`. -/
def atLeast (least : Int) (reason : String) (d : Data) : Checked Nat :=
  (Checked.ensure (fun n => least ≤ n) (fun _ => reason) d.asWhole).map Int.toNat

/-- Reads the section on caches. -/
def Caches.read (fields : Data.Fields) : Checked Caches :=
  let limit (names : List String) (absent : Nat) : Checked Nat :=
    fields.optional names absent (atLeast 1 "cache limits must be >= 1")
  Checked.both
    (Checked.both
      (Checked.both ((limit ["ruleMaxSize", "rule_max_size"] 50).map Caches.mk)
        (limit ["ruleTtlSeconds", "rule_ttl_seconds"] 3600))
      (limit ["overrideMaxSize", "override_max_size"] 50))
    (limit ["overrideTtlSeconds", "override_ttl_seconds"] 3600)

/-- Is a name nothing but letters and digits, hyphens, underscores and points aside? -/
def isParameterName (name : String) : Bool :=
  let cs := name.toList.filter fun c => !(c == '-' || c == '_' || c == '.')
  !cs.isEmpty && cs.all Text.isAlphanumeric

/-- Refuses a list that holds something else than parameter names. -/
def parameterNames (names : Checked (List String)) : Checked (List String) :=
  match names with
  | .ok ns =>
    match ns.find? fun n => !isParameterName n with
    | some n => .fail (.refused ("invalid parameter name in allow-list: " ++ Text.quoted n))
    | none => .ok ns
  | .error cs => .error cs

/-- Reads the section on compilation. -/
def Compiler.read (fields : Data.Fields) : Checked Compiler :=
  Checked.both
    (Checked.both
      (Checked.both ((fields.optional ["phase"] "#ALL" Data.asText).map Compiler.mk)
        (fields.optional ["allowForeign", "allow_foreign"] true Data.asTruth))
      (fields.optional ["parameterAllowList", "parameter_allow_list"] ["type"]
        fun d => parameterNames (d.asItems .notList Data.asText)))
    (fields.optional ["defaultSubtype", "default_subtype"] "efatura" Data.asText)

/-- Reads the section on impact analysis. -/
def readTolerance (fields : Data.Fields) : Checked Impact.Tolerance :=
  Checked.both
    ((fields.optional ["minDistance", "min_distance"] 3
      (atLeast 0 "min_distance must be >= 0")).map Impact.Tolerance.mk)
    (fields.optional ["lengthDivisor", "length_divisor"] 3
      (atLeast 1 "length_divisor must be >= 1"))

/-- Reads the section on logging. -/
def readLogLevel (fields : Data.Fields) : Checked LogLevel :=
  fields.optional ["level"] .info (Data.asName LogLevel.ofName?)

/-- The names of the sections. -/
def sections : List String :=
  ["assets", "rulesets", "schemas", "cache", "compiler", "impact", "logging"]

/-- Reads a configuration. -/
def read (fields : Data.Fields) : Checked Config :=
  let section_ {α : Type} (name : String) (absent : α) (read : Data.Fields → Checked α) :=
    fields.optional [name] absent (Data.asRecord read)
  let config :=
    Checked.both (Checked.both (Checked.both (Checked.both (Checked.both (Checked.both
      ((section_ "assets" {} Assets.read).map Config.mk)
      (fields.optional ["rulesets"] defaultRuleSets
        (Data.asMapping (Data.asName RuleSetType.ofName?) (Data.asRecord RuleSet.read))))
      (fields.optional ["schemas"] defaultSchemas
        (Data.asMapping (Data.asName SchemaType.ofName?) Data.asText)))
      (section_ "cache" {} Caches.read))
      (section_ "compiler" {} Compiler.read))
      (section_ "impact" {} readTolerance))
      (section_ "logging" .info readLogLevel)
  Checked.both (config.map fun c _ => c) (fields.onlyKnown sections)

/-! ## Writing -/

/-- A configuration with all its settings, as a document. -/
def toData (c : Config) : Data :=
  let natural (n : Nat) : Data := .int n
  .ofEntries [
    ("assets", .ofEntries [
      ("root", .text c.assets.root),
      ("generatedDir", .text c.assets.generatedDir),
      ("profilesFile", .text c.assets.profilesFile)]),
    ("rulesets", .ofEntries (c.ruleSets.map fun (t, r) =>
      (t.name, .ofEntries [("path", .text r.path), ("kind", .text r.kind.name)]))),
    ("schemas", .ofEntries (c.schemas.map fun (t, path) => (t.name, .text path))),
    ("cache", .ofEntries [
      ("ruleMaxSize", natural c.caches.ruleMaxSize),
      ("ruleTtlSeconds", natural c.caches.ruleTtlSeconds),
      ("overrideMaxSize", natural c.caches.overrideMaxSize),
      ("overrideTtlSeconds", natural c.caches.overrideTtlSeconds)]),
    ("compiler", .ofEntries [
      ("phase", .text c.compiler.phase),
      ("allowForeign", .bool c.compiler.allowForeign),
      ("parameterAllowList", .ofList (c.compiler.parameterAllowList.map Data.text)),
      ("defaultSubtype", .text c.compiler.defaultSubtype)]),
    ("impact", .ofEntries [
      ("minDistance", natural c.impact.minDistance),
      ("lengthDivisor", natural c.impact.lengthDivisor)]),
    ("logging", .ofEntries [("level", .text c.logLevel.name)])]

end Config

end Conformity

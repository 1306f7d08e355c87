import Conformity.Command.Arguments

/-!
# Commands

What the program can be asked to do on the command line.
-/

namespace Conformity

/-- A document that is to be validated. -/
structure ValidationOrder where
  document : String
  ruleSet : String
  schema : Option String := none
  profile : Option String := none
  suppressions : List String := []
  subtype : Option String := none
  /-- Is the report to be printed as JSON? -/
  json : Bool := false
  deriving DecidableEq, Repr

/-- What the program is asked to do with a configuration. -/
inductive Job where
  | reload
  /-- Compile a rule-set, and write the stylesheet to a file if one is named. -/
  | compile (ruleSet : String) (out : Option String)
  | profiles
  | profile (name : String)
  | validate (order : ValidationOrder)
  | impact (ruleSet source : String) (json : Bool)
  deriving DecidableEq, Repr

/-- What the program is asked to do. -/
inductive Command where
  | version
  | help
  | perform (job : Job) (config : Option String)
  deriving DecidableEq, Repr

namespace Command

/-- The option for help. -/
def helpOption : OptionForm := ⟨"--help", none, false⟩

/-- The option for the configuration. -/
def configOption : OptionForm := ⟨"--config", some 'c', true⟩

/-- The option for output as JSON. -/
def jsonOption : OptionForm := ⟨"--json", none, false⟩

/-- How a job is asked for: its options, the names of its words, the options that must be there, and
the job that follows. -/
structure JobForm where
  options : List OptionForm := []
  words : List String := []
  required : List String := []
  job : Arguments → List String → Option Job

/-- The forms of the jobs by name. -/
def jobForms : List (String × JobForm) :=
  [("reload", { job := fun _ _ => some .reload }),
    ("compile",
      { options := [⟨"--out", some 'o', true⟩], words := ["RULE_SET_TYPE"]
        job := fun a ws =>
          match ws with
          | [t] => some (.compile t (a.value? "--out"))
          | _ => none }),
    ("profiles", { job := fun _ _ => some .profiles }),
    ("profile",
      { words := ["NAME"]
        job := fun _ ws =>
          match ws with
          | [name] => some (.profile name)
          | _ => none }),
    ("validate",
      { options := [⟨"--rule-set", some 'r', true⟩, ⟨"--schema", some 's', true⟩,
          ⟨"--profile", some 'p', true⟩, ⟨"--suppress", none, true⟩, ⟨"--subtype", none, true⟩,
          jsonOption]
        words := ["DOCUMENT"], required := ["--rule-set"]
        job := fun a ws =>
          match ws, a.value? "--rule-set" with
          | [document], some ruleSet =>
            some (.validate
              { document, ruleSet, schema := a.value? "--schema", profile := a.value? "--profile"
                suppressions := a.values "--suppress", subtype := a.value? "--subtype"
                json := a.has "--json" })
          | _, _ => none }),
    ("impact",
      { options := [jsonOption], words := ["RULE_SET_TYPE", "NEW_SOURCE"]
        job := fun a ws =>
          match ws with
          | [t, source] => some (.impact t source (a.has "--json"))
          | _ => none })]

/-- Reads the arguments of a job. -/
def readJob (form : JobForm) (arguments : List String) : Except UsageFault Command := do
  let options := form.options ++ [configOption, helpOption]
  let a ← Arguments.read options true {} arguments
  if a.has "--help" then return .help
  else
    match form.required.find? fun option => !a.has option with
    | some option => throw (.missingOption option)
    | none =>
      match a.words.drop form.words.length, form.words.drop a.words.length with
      | word :: _, _ => throw (.surplusWord word)
      | [], name :: _ => throw (.missingWord name)
      | [], [] =>
        match form.job a a.words with
        | some job => return .perform job (a.value? "--config")
        | none => throw .noCommand

/-- The command that arguments ask for. -/
def ofArguments (arguments : List String) : Except UsageFault Command := do
  let a ← Arguments.read [⟨"--version", some 'v', false⟩, helpOption] false {} arguments
  match a.options, a.words with
  | ("--version", _) :: _, _ => return .version
  | _ :: _, _ => return .help
  | [], [] => throw .noCommand
  | [], name :: rest =>
    match jobForms.lookup name with
    | some form => readJob form rest
    | none => throw (.unknownCommand name)

end Command

end Conformity

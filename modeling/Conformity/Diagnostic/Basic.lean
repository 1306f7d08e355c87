import Conformity.Text.Blank
import Conformity.Data.Value

/-!
# Diagnostics

Messages reported while a source is compiled or a document processed, with the place they are about
and the stage of work they come from. A collection of diagnostics is summed up by its errors, or by
everything if there is no error.
-/

namespace Conformity

/-- How serious a diagnostic is. -/
inductive Severity where
  | error
  | warning
  | info
  deriving DecidableEq, Repr

namespace Severity

/-- All severities, in the order in which they are counted. -/
def all : List Severity := [error, warning, info]

/-- The name of a severity. -/
def name : Severity → String
  | error => "error"
  | warning => "warning"
  | info => "info"

/-- The severity with a name. -/
def ofName? (s : String) : Option Severity := all.find? fun x => x.name == s

/-- The severity of a log level, small and capital letters being the same. -/
def ofLevel (level : String) : Severity :=
  match level.map Char.toUpper with
  | "WARNING" => warning
  | "ERROR" | "FATAL" => error
  | _ => info

end Severity

/-- A message about a source. -/
structure Diagnostic where
  severity : Severity
  message : String
  line : Option Int := none
  column : Option Int := none
  stage : Option String := none
  deriving DecidableEq, Repr

/-- A diagnostic as one of another stage. -/
def Diagnostic.restaged (stage : String) (d : Diagnostic) : Diagnostic :=
  { d with stage := some stage }

/-- An entry of a processor's log. -/
structure LogEntry where
  message : String
  line : Option Int := none
  column : Option Int := none
  level : String := "ERROR"

namespace Diagnostic

/-- A number that counts, if it is not zero. -/
def place (n : Option Int) : Option Int := n.filter (· != 0)

/-- A diagnostic as it is collected: trimmed, and without a line or column zero. -/
def collected (stage : Option String) (severity : Severity) (message : String)
    (line column : Option Int) : Diagnostic :=
  ⟨severity, Text.trim message, place line, place column, stage⟩

/-- The diagnostic of a log entry. -/
def ofLogEntry (stage : Option String) (e : LogEntry) : Diagnostic :=
  collected stage (Severity.ofLevel e.level) e.message e.line e.column

/-- The diagnostic on one line. -/
def text (d : Diagnostic) : String :=
  (match d.stage with
    | some s => if s.isEmpty then "" else "[" ++ s ++ "] "
    | none => "") ++
  (match place d.line with
    | some n => "line " ++ toString n ++ ": "
    | none => "") ++
  d.message

/-- Is this an error? -/
def isError (d : Diagnostic) : Bool := d.severity == .error

/-- A diagnostic as a record. -/
def toData (d : Diagnostic) : Data :=
  .ofEntries [("severity", .text d.severity.name), ("message", .text d.message),
    ("line", .ofInt? d.line), ("column", .ofInt? d.column), ("stage", .ofText? d.stage)]

/-- The errors among diagnostics. -/
def errors (ds : List Diagnostic) : List Diagnostic := ds.filter isError

/-- How many diagnostics there are of each severity. -/
def counts (ds : List Diagnostic) : List (Severity × Nat) :=
  Severity.all.map fun s => (s, (ds.filter (·.severity == s)).length)

/-- The diagnostics on one line. -/
def joined (ds : List Diagnostic) : String := "; ".intercalate (ds.map text)

/-- All errors on one line, or all diagnostics if none is an error. -/
def summary (ds : List Diagnostic) : String :=
  joined (if (errors ds).isEmpty then ds else errors ds)

/-- What diagnostics say, as a record. -/
def overview (ds : List Diagnostic) : Data :=
  .ofEntries [("diagnostics", .ofList (ds.map toData)), ("text", .texts (ds.map text)),
    ("hasErrors", .bool (ds.any isError)), ("errors", .int (errors ds).length),
    ("counts", .ofEntries ((counts ds).map fun (s, n) => (s.name, .int n))),
    ("summary", .text (summary ds))]

/-- The diagnostics as coming from one stage. -/
def atStage (stage : String) (ds : List Diagnostic) : List Diagnostic :=
  ds.map fun d => { d with stage := some stage }

end Diagnostic

end Conformity

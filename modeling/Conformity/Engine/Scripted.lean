import Conformity.Engine.Basic

/-!
# Scripted engines

An engine that does as it is told, for trying out what is built on engines. A stage answers what the
script says, or else its own document. Words in a source or a document make it fail: a stylesheet with
`FAIL-COMPILE` and a schema with `FAIL-SCHEMA` are rejected, a document with `FAIL-RUN` stops a run.
-/

namespace Conformity

/-- What a stage does. -/
inductive StageScript where
  | output (document : Bytes)
  | fault (f : EngineFault)
  /-- The document stays as it is. -/
  | same

/-- What an engine is told to do. -/
structure Script where
  stages : List (Stage × StageScript) := []
  /-- What every run gives. -/
  output : Bytes := []
  /-- What every document is told to break in a schema. -/
  schemaErrors : List String := []

namespace Script

/-- Does a text contain a word? -/
def mentions (word : String) (text : Bytes) : Bool := contains (bytesOf word) text
where
  /-- Do bytes contain a part? -/
  contains (part : Bytes) : Bytes → Bool
    | [] => part.isEmpty
    | b :: bs => part.isPrefixOf (b :: bs) || contains part bs

/-- The engine that follows a script. -/
def engine (s : Script) : Engine where
  pass stage _ document :=
    match s.stages.lookup stage with
    | some (.output d) => .ok d
    | some (.fault f) => .error f
    | _ => .ok document
  compile content :=
    if mentions "FAIL-COMPILE" content then
      .error ⟨"broken stylesheet",
        [{ severity := .error, message := "bad template", line := some 3, column := some 7 }]⟩
    else .ok ⟨content⟩
  apply _ _ document :=
    if mentions "FAIL-RUN" document then
      .error ⟨"run failed", [{ severity := .warning, message := "boom" }]⟩
    else .ok s.output
  compileSchema content :=
    if mentions "FAIL-SCHEMA" content then
      .error ⟨"broken schema",
        [{ severity := .error, message := "bad particle", line := some 9 }]⟩
    else .ok ⟨content⟩
  validate _ _ := s.schemaErrors

end Script

end Conformity

import Conformity.Data.Checked
import Conformity.Data.Json
import Conformity.Digest
import Conformity.Text.Order

/-!
# Custom assertions

A check that a caller adds to a rule-set: for each node that `context` selects, `test` must hold, and
`message` is reported where it does not. A set of assertions has a fingerprint that depends neither on
their order nor on repetitions.
-/

namespace Conformity

/-- A check to be added to a rule-set. -/
structure Assertion where
  context : Option String := none
  test : Option String := none
  message : Option String := none
  id : Option String := none
  deriving DecidableEq, Repr

/-- A text that is there and not blank. -/
def hasText (s : Option String) : Bool := s.any fun s => !Text.isBlankText s

namespace Assertion

/-- Reads an assertion from a record. -/
def read (fields : Data.Fields) : Checked Assertion :=
  let text (name : String) := fields.optional [name] none Data.asText?
  Checked.both (Checked.both (Checked.both ((text "context").map Assertion.mk) (text "test"))
    (text "message")) (text "id")

/-- Does the assertion have all that a check needs? -/
def isComplete (a : Assertion) : Bool := hasText a.context && hasText a.test && hasText a.message

/-- The assertion as one line of text, different for different assertions. -/
def canonical (a : Assertion) : String :=
  Json.compact (.ofList ([a.context, a.test, a.message, a.id].map Data.ofText?))

/-- The record of an assertion in a document. -/
def record (a : Assertion) : Data :=
  .ofEntries ([("context", .ofText? a.context), ("test", .ofText? a.test),
    ("message", .ofText? a.message)] ++ if hasText a.id then [("id", .ofText? a.id)] else [])

/-- An assertion with all its parts, as a record. -/
def toData (a : Assertion) : Data :=
  .ofEntries [("context", .ofText? a.context), ("test", .ofText? a.test),
    ("message", .ofText? a.message), ("id", .ofText? a.id)]

/-- The canonical lines of assertions, each once and in order. -/
def canonicalLines (assertions : List Assertion) : List String :=
  Text.sortedSet (assertions.map canonical)

/-- A digest of a set of assertions. -/
def fingerprint (assertions : List Assertion) : String :=
  Digest.sha256 ((canonicalLines assertions).flatMap fun line => bytesOf line ++ [0x0A])

end Assertion

end Conformity

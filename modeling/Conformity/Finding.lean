import Conformity.Data.Checked

/-!
# Findings

What a run of a rule-set reports about a document. Findings are partitioned by suppression into
active and suppressed ones.
-/

namespace Conformity

/-- One violation of a rule. Some rule-sets report nothing but the message. -/
structure Finding where
  ruleId : Option String := none
  /-- The expression that did not hold. -/
  test : Option String := none
  message : String
  deriving DecidableEq, Repr

/-- Reads a finding from a record. -/
def Finding.read (fields : Data.Fields) : Checked Finding :=
  Checked.both
    (Checked.both
      ((fields.optional ["ruleId", "rule_id"] none Data.asText?).map Finding.mk)
      (fields.optional ["test", "test_expression"] none Data.asText?))
    (fields.required ["message"] Data.asText)

/-- A finding as a record. -/
def Finding.toData (f : Finding) : Data :=
  .ofEntries [("ruleId", .ofText? f.ruleId), ("test", .ofText? f.test), ("message", .text f.message)]

/-- Findings divided into active and suppressed ones, for a profile. -/
structure Partition where
  active : List Finding := []
  suppressed : List Finding := []
  profileName : Option String := none
  deriving DecidableEq, Repr

/-- A partition as a record. -/
def Partition.toData (p : Partition) : Data :=
  .ofEntries [("active", .ofList (p.active.map Finding.toData)),
    ("suppressed", .ofList (p.suppressed.map Finding.toData)),
    ("profileName", .ofText? p.profileName)]

/-- The number of suppressed findings. -/
def Partition.suppressedCount (p : Partition) : Nat := p.suppressed.length

/-- The number of all findings. -/
def Partition.total (p : Partition) : Nat := p.active.length + p.suppressed.length

/-- A partition as a record, with the numbers of its findings. -/
def Partition.overview (p : Partition) : Data :=
  .ofEntries [("active", .ofList (p.active.map Finding.toData)),
    ("suppressed", .ofList (p.suppressed.map Finding.toData)),
    ("profileName", .ofText? p.profileName), ("suppressedCount", .int p.suppressedCount),
    ("total", .int p.total)]

end Conformity

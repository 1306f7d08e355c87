import Conformity.Decimal.Double
import Conformity.Text.Quoted

/-!
# What can be wrong with a YAML document

A document that breaks the rules of YAML is malformed, however it does so. A document may also be well
formed and hold a scalar whose text is not of the kind that its form or its tag promises.
-/

namespace Conformity.Yaml

/-- A part of a date or of a time of day that is out of its range. -/
inductive CalendarFault where
  | year (n : Nat)
  | month
  | day
  | hour
  | minute
  | second
  /-- A distance from universal time, in minutes. -/
  | offset (minutes : Int)
  deriving DecidableEq, Repr

/-- A span of time as it is shown in messages. -/
def spanShown (minutes : Int) : String :=
  let days := minutes.fdiv 1440
  let seconds := minutes.fmod 1440 * 60
  let parts := (if days = 0 then [] else ["days=" ++ toString days]) ++
    (if seconds = 0 then [] else ["seconds=" ++ toString seconds])
  "datetime.timedelta(" ++ (if parts.isEmpty then "0" else ", ".intercalate parts) ++ ")"

/-- The wording of a calendar fault. -/
def CalendarFault.message : CalendarFault → String
  | year n => "year " ++ toString n ++ " is out of range"
  | month => "month must be in 1..12"
  | day => "day is out of range for month"
  | hour => "hour must be in 0..23"
  | minute => "minute must be in 0..59"
  | second => "second must be in 0..59"
  | offset minutes =>
    "offset must be a timedelta strictly between -timedelta(hours=24) and timedelta(hours=24), not " ++
      spanShown minutes ++ "."

/-- A scalar whose text is not of its kind. -/
inductive Unreadable where
  /-- A word that is no truth value. -/
  | truth (word : String)
  /-- A number without a text. -/
  | empty
  | whole (base : Nat) (text : String)
  | decimal (text : String)
  | calendar (fault : CalendarFault)
  /-- The code of a character is beyond the last one. -/
  | code
  deriving DecidableEq, Repr

/-- The wording of an unreadable scalar. -/
def Unreadable.message : Unreadable → String
  | truth word => Text.quoted word
  | empty => "string index out of range"
  | whole base text =>
    "invalid literal for int() with base " ++ toString base ++ ": " ++ Text.quoted text
  | decimal text => "could not convert string to float: " ++ Text.quoted text
  | calendar fault => fault.message
  | code => "chr() arg not in range(0x110000)"

/-- Why a document cannot be read. -/
inductive Fault where
  | malformed
  | unreadable (cause : Unreadable)
  deriving DecidableEq, Repr

end Conformity.Yaml

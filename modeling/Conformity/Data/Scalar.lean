import Conformity.Decimal.Shortest
import Conformity.Text.Utf8
import Conformity.Text.Quoted

/-!
# Single values of a document

What a document holds at its leaves and as the keys of its mappings: truth values, numbers, texts,
bytes, days and moments. Two keys are the same key if their values are equal; a truth value equals
the number 0 or 1, and a whole number equals the floating-point number of its value.
-/

namespace Conformity

/-- A day of the calendar. -/
structure Day where
  year : Nat
  month : Nat
  day : Nat
  deriving DecidableEq, Repr

/-- A moment: a day, a time of day, and perhaps the distance from universal time in minutes. -/
structure Moment where
  day : Day
  hour : Nat
  minute : Nat
  second : Nat
  microsecond : Nat
  offset : Option Int
  deriving DecidableEq, Repr

/-- A number in decimal, filled up with zeros to a width. -/
def padded (width n : Nat) : String :=
  let cs := Nat.toDigits 10 n
  String.ofList (List.replicate (width - cs.length) '0' ++ cs)

namespace Day

/-- Is a year one with 29 days in February? -/
def isLeapYear (year : Nat) : Bool := year % 4 == 0 && (year % 100 != 0 || year % 400 == 0)

/-- The number of days of a month. -/
def daysIn (year month : Nat) : Nat :=
  match month with
  | 2 => if isLeapYear year then 29 else 28
  | 4 | 6 | 9 | 11 => 30
  | _ => 31

/-- The day as year, month and day of the month. -/
def text (d : Day) : String :=
  padded 4 d.year ++ "-" ++ padded 2 d.month ++ "-" ++ padded 2 d.day

/-- The number of days since the beginning of the year 1. -/
def number (d : Day) : Int :=
  let y : Int := (d.year : Int) - 1
  let before := (List.range (d.month - 1)).foldl (fun n m => n + daysIn d.year (m + 1)) 0
  y * 365 + y / 4 - y / 100 + y / 400 + (before + d.day : Nat)

end Day

namespace Moment

/-- The distance from universal time, in hours and minutes. -/
def offsetText (minutes : Int) : String :=
  (if minutes < 0 then "-" else "+") ++ padded 2 (minutes.natAbs / 60) ++ ":" ++
    padded 2 (minutes.natAbs % 60)

/-- The moment with `between` standing between day and time. Microseconds are left out if there are
none. -/
def text (between : String) (m : Moment) : String :=
  m.day.text ++ between ++ padded 2 m.hour ++ ":" ++ padded 2 m.minute ++ ":" ++
    padded 2 m.second ++ (if m.microsecond = 0 then "" else "." ++ padded 6 m.microsecond) ++
    ((m.offset.map offsetText).getD "")

/-- Microseconds of the clock, at the place the moment was told or in universal time. -/
def ticks (m : Moment) : Int :=
  let seconds : Int := m.day.number * 86400 + (m.hour * 3600 + m.minute * 60 + m.second : Nat)
  (seconds - m.offset.getD 0 * 60) * 1000000 + m.microsecond

end Moment

/-- A single value. Days and moments carry the label of the node they were read from (see `Data`). -/
inductive Scalar where
  | null
  | bool (b : Bool)
  | int (n : Int)
  | float (x : Double)
  | text (s : String)
  | bytes (bs : Bytes)
  | day (label : Nat) (d : Day)
  | moment (label : Nat) (m : Moment)
  deriving DecidableEq, Repr

namespace Scalar

/-- The whole number that a truth value or a number equals. -/
def whole? : Scalar → Option Int
  | bool b => some (if b then 1 else 0)
  | int n => some n
  | float x => x.toInt?
  | _ => none

/-- Are two scalars the same key of a mapping? -/
def sameKey : Scalar → Scalar → Bool
  | null, null => true
  | text s, text t => s == t
  | bytes s, bytes t => s == t
  | day _ d, day _ e => d == e
  | moment _ m, moment _ n => m.offset.isSome == n.offset.isSome && m.ticks == n.ticks
  | float x, float y => x.sameValue y
  | a, b =>
    match a.whole?, b.whole? with
    | some m, some n => m == n
    | _, _ => false

/-- The distance of a moment from universal time, as shown in messages. -/
def offsetShown (minutes : Int) : String :=
  if minutes = 0 then "datetime.timezone.utc"
  else
    let seconds := minutes * 60
    let span :=
      if seconds < 0 then "days=-1, seconds=" ++ toString (seconds + 86400)
      else "seconds=" ++ toString seconds
    "datetime.timezone(datetime.timedelta(" ++ span ++ "))"

/-- A scalar as it is shown inside messages: texts quoted, the rest by its kind. -/
def shown : Scalar → String
  | null => "None"
  | bool b => if b then "True" else "False"
  | int n => toString n
  | float x => x.text
  | text s => Text.quoted s
  | bytes bs => Text.quotedBytes bs
  | day _ d =>
    "datetime.date(" ++ ", ".intercalate ([d.year, d.month, d.day].map toString) ++ ")"
  | moment _ m =>
    let clock :=
      if m.microsecond != 0 then [m.hour, m.minute, m.second, m.microsecond]
      else if m.second != 0 then [m.hour, m.minute, m.second]
      else [m.hour, m.minute]
    let parts := ([m.day.year, m.day.month, m.day.day] ++ clock).map toString ++
      (m.offset.map fun o => "tzinfo=" ++ offsetShown o).toList
    "datetime.datetime(" ++ ", ".intercalate parts ++ ")"

/-- A scalar as plain text. -/
def plain : Scalar → String
  | text s => s
  | day _ d => d.text
  | moment _ m => m.text " "
  | s => s.shown

end Scalar

end Conformity

import Conformity.Data.Json
import Conformity.Data.Scalar
import Conformity.Yaml.Fault

/-!
# Days and moments in YAML

A day is written as year, month and day. A moment has a time of day behind it, perhaps with parts of a
second and a distance from universal time. Whether the numbers exist on the calendar is checked after
the form (`Written.value`).
-/

namespace Conformity.Yaml

/-- A time of day as it is written. -/
structure WrittenTime where
  hour : Nat
  minute : Nat
  second : Nat
  microsecond : Nat
  /-- The distance from universal time in minutes. -/
  offset : Option Int

/-- A day or a moment as it is written. -/
structure WrittenDate where
  year : Nat
  month : Nat
  day : Nat
  time : Option WrittenTime
  /-- Have month and day two digits each? -/
  padded : Bool

/-- Reads a number of `low` to `high` digits, and how many there are. -/
def digits? (low high : Nat) (cs : List Char) : Option (Nat × Nat × List Char) :=
  let ds := (cs.takeWhile Char.isDigit).take high
  if ds.length < low then none else some (Json.natOf ds, ds.length, cs.drop ds.length)

/-- What follows a character. -/
def behind? (c : Char) : List Char → Option (List Char)
  | d :: cs => if c == d then some cs else none
  | [] => none

/-- A blank inside a line. -/
def isSpace (c : Char) : Bool := c == ' ' || c == '\t'

/-- Reads the parts of a second behind a time of day, in millionths; further digits are dropped. -/
def fraction (cs : List Char) : Nat × List Char :=
  match cs with
  | '.' :: cs =>
    let ds := cs.takeWhile Char.isDigit
    (Json.natOf ((ds ++ List.replicate 6 '0').take 6), cs.drop ds.length)
  | _ => (0, cs)

/-- Reads the distance from universal time that ends a moment; nothing if something else stands there. -/
def offset? (cs : List Char) : Option (Option Int) :=
  if cs.isEmpty then some none
  else
    match cs.dropWhile isSpace with
    | ['Z'] => some (some 0)
    | sign :: cs =>
      if sign == '+' || sign == '-' then do
        let (hours, _, cs) ← digits? 1 2 cs
        let minutes ←
          if cs.isEmpty then pure 0
          else do
            let (minutes, _, cs) ← digits? 2 2 (← behind? ':' cs)
            if cs.isEmpty then pure minutes else none
        let n : Int := (hours * 60 + minutes : Nat)
        return some (if sign == '-' then -n else n)
      else none
    | [] => none

/-- Reads a time of day behind what separates it from the day. -/
def writtenTime? (cs : List Char) : Option WrittenTime := do
  let cs ←
    match cs with
    | c :: cs =>
      if c == 'T' || c == 't' then pure cs
      else if isSpace c then pure (cs.dropWhile isSpace)
      else none
    | [] => none
  let (hour, _, cs) ← digits? 1 2 cs
  let (minute, _, cs) ← digits? 2 2 (← behind? ':' cs)
  let (second, _, cs) ← digits? 2 2 (← behind? ':' cs)
  let (microsecond, cs) := fraction cs
  return ⟨hour, minute, second, microsecond, ← offset? cs⟩

/-- Reads a day or a moment. -/
def writtenDate? (cs : List Char) : Option WrittenDate := do
  let (year, _, cs) ← digits? 4 4 cs
  let (month, n, cs) ← digits? 1 2 (← behind? '-' cs)
  let (day, m, cs) ← digits? 1 2 (← behind? '-' cs)
  let padded := n == 2 && m == 2
  if cs.isEmpty then return ⟨year, month, day, none, padded⟩
  else return ⟨year, month, day, some (← writtenTime? cs), padded⟩

/-- Is a plain scalar a day or a moment? -/
def isCalendar (cs : List Char) : Bool :=
  match writtenDate? cs with
  | some d => d.padded || d.time.isSome
  | none => false

/-- The day that is written, if it exists. -/
def WrittenDate.dayValue (d : WrittenDate) : Except CalendarFault Day :=
  if d.year = 0 then .error (.year d.year)
  else if d.month < 1 || 12 < d.month then .error .month
  else if d.day < 1 || Day.daysIn d.year d.month < d.day then .error .day
  else .ok ⟨d.year, d.month, d.day⟩

/-- The day or moment that is written, if it exists, with the label of its node. -/
def WrittenDate.value (label : Nat) (d : WrittenDate) : Except CalendarFault Scalar :=
  match d.time with
  | none => d.dayValue.map (.day label)
  | some t =>
    if t.offset.any fun o => 1440 ≤ o.natAbs then .error (.offset (t.offset.getD 0))
    else do
      let day ← d.dayValue
      if 23 < t.hour then .error .hour
      else if 59 < t.minute then .error .minute
      else if 59 < t.second then .error .second
      else return .moment label ⟨day, t.hour, t.minute, t.second, t.microsecond, t.offset⟩

end Conformity.Yaml

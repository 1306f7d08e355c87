/-!
# The present

What the clocks show. The library asks no clock itself.
-/

namespace Conformity

/-- The readings of the clocks, to the second. -/
structure Present where
  /-- A clock that never goes back, by which caches measure time. -/
  ticks : Int := 0
  /-- The time at this place. -/
  here : String
  /-- The universal time. -/
  universal : String
  deriving DecidableEq, Repr

/-- The text of a time without fractions of its seconds, the day and the hour divided by a letter. -/
def Present.wholeSeconds (s : String) : String :=
  let cs := s.toList.map fun c => if c == ' ' then 'T' else c
  let time := cs.takeWhile (· != '.')
  let rest := ((cs.dropWhile (· != '.')).drop 1).dropWhile Char.isDigit
  String.ofList (time ++ rest)

end Conformity

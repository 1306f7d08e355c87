import Conformity.Text.Lowercase
import Conformity.Text.Order

/-!
# Similar identifiers

The edit distance of two texts is the least number of insertions, deletions and replacements of one
character that turn one into the other. `distance` computes it row by row: row `i` of the table holds the
distances between the first `i` characters of one text and every beginning of the other. An identifier
that disappeared may have been renamed. Its likely successor is the new identifier with the least edit
distance to it, small and capital letters being the same, if that distance is within a bound; of several
the alphabetically first one.
-/

namespace Conformity.Text

/-! ## Edit distance -/

/-- The rest of a row: `left` is the entry just computed, `diag` the entry above it, and `above` the
entries of the row above from here on. -/
def distanceRowFrom (c : Char) (left diag : Nat) : List Char → List Nat → List Nat
  | d :: ds, up :: above =>
    let here := min (min (up + 1) (left + 1)) (diag + if c = d then 0 else 1)
    here :: distanceRowFrom c here up ds above
  | _, _ => []

/-- The row below `above` for character `c`, `first` being its first entry. -/
def distanceRow (c : Char) (first : Nat) (ds : List Char) : List Nat → List Nat
  | diag :: above => first :: distanceRowFrom c first diag ds above
  | [] => [first]

/-- The last row of the table, reached from row number `i`. -/
def distanceRows (ds : List Char) : (i : Nat) → (row : List Nat) → List Char → List Nat
  | _, row, [] => row
  | i, row, c :: cs => distanceRows ds (i + 1) (distanceRow c (i + 1) ds row) cs

/-- The edit distance of two texts, the longer one read down the rows. -/
def distance (a b : String) : Nat :=
  let as := a.toList
  let bs := b.toList
  let long := if as.length < bs.length then bs else as
  let short := if as.length < bs.length then as else bs
  (distanceRows short 0 (List.range (short.length + 1)) long).getLastD 0

end Conformity.Text

namespace Conformity.Impact

/-! ## Successors -/

/-- How far an identifier may be from its successor: the greater one of `minDistance` and the length
of the identifier divided by `lengthDivisor`. -/
structure Tolerance where
  minDistance : Nat := 3
  lengthDivisor : Nat := 3
  deriving DecidableEq, Repr

/-- The greatest distance from an identifier to its successor. -/
def Tolerance.bound (t : Tolerance) (id : String) : Nat :=
  max t.minDistance (id.length / t.lengthDivisor)

/-- The edit distance of two identifiers, small and capital letters being the same. -/
def idDistance (a b : String) : Nat := Text.distance (Text.lower a) (Text.lower b)

/-- The nearest candidate so far, with its distance, after one more. -/
def nearer (id : String) (bound : Nat) (best : Option (String × Nat)) (candidate : String) :
    Option (String × Nat) :=
  let d := idDistance id candidate
  if d ≤ bound && best.all (d < ·.2) then some (candidate, d) else best

/-- The likely successor of an identifier. -/
def similarId (t : Tolerance) (id : String) (candidates : List String) : Option String :=
  ((Text.sorted candidates).foldl (nearer id (t.bound id)) none).map (·.1)

end Conformity.Impact

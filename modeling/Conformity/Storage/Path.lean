import Conformity.Text.Utf8
import Conformity.Text.Cut

/-!
# Asset paths

A path may be written with backslashes and begin with any number of separators. Inside a root its
parts are walked one by one, `.` staying where it is and `..` going up; a path that ends outside the
root belongs to nothing.
-/

namespace Conformity.Path

/-- A path in its plain form: forward slashes, and none in front. -/
def plain (path : String) : String :=
  String.ofList (((path.toList.map fun c => if c == '\\' then '/' else c)).dropWhile (· == '/'))

/-- The parts of a path, without empty ones. -/
def parts (path : String) : List String :=
  ((Text.split '/' path.toList).filter (!·.isEmpty)).map String.ofList

/-- Walks the parts of a path from a place, which is given by its parts, innermost first. -/
def walk : (place : List String) → List String → List String
  | place, [] => place
  | place, p :: ps =>
    if p == "." then walk place ps
    else if p == ".." then walk (place.drop 1) ps
    else walk (p :: place) ps

/-- An absolute place, by its parts from the outside in. -/
abbrev Place := List String

/-- The text of an absolute place. -/
def text (place : Place) : String := "/" ++ "/".intercalate place

/-- The place that a path leads to from a place. -/
def from_ (place : Place) (path : String) : Place := (walk place.reverse (parts path)).reverse

/-- Does a place lie at or below another one? -/
def isWithin (root place : Place) : Bool := root.isPrefixOf place

/-- Is a place the other one, or before it in the order of their first different parts? -/
def inOrder : Place → Place → Bool
  | [], _ => true
  | _ :: _, [] => false
  | p :: ps, q :: qs => decide (p < q) || (p == q && inOrder ps qs)

/-- The place of an asset below a root; nothing if the path leads out of the root. -/
def below? (root : Place) (path : String) : Option Place :=
  let place := from_ root (plain path)
  if isWithin root place then some place else none

end Conformity.Path

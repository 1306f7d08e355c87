import Conformity.Data.Value

/-!
# Document values in messages

A value is shown on one line: lists between brackets, mappings between braces, texts quoted. A node
that lies within itself is shown by dots there.
-/

namespace Conformity.Data

/-- Text between braces. -/
def braced (s : String) : String := "\x7b" ++ s ++ "\x7d"

mutual

/-- A value as it is shown inside messages; `within` has the labels of the nodes around it. -/
def shownIn (within : List Nat) : Data → String
  | scalar s => s.shown
  | list l xs =>
    if l != 0 && within.contains l then "[...]"
    else "[" ++ ", ".intercalate (shownItems (l :: within) xs) ++ "]"
  | map l es =>
    if l != 0 && within.contains l then braced "..."
    else braced (", ".intercalate (shownEntries (l :: within) es))
  | set _ ms => if ms.isEmpty then "set()" else braced (", ".intercalate (ms.map Scalar.shown))
  | pair l a b =>
    if l != 0 && within.contains l then "(...)"
    else "(" ++ shownIn (l :: within) a ++ ", " ++ shownIn (l :: within) b ++ ")"
  | knot _ mapping => if mapping then braced "..." else "[...]"

/-- The items of a list, shown. -/
def shownItems (within : List Nat) : List Data → List String
  | [] => []
  | x :: xs => shownIn within x :: shownItems within xs

/-- The entries of a mapping, shown. -/
def shownEntries (within : List Nat) : List (Scalar × Data) → List String
  | [] => []
  | (k, x) :: es => (k.shown ++ ": " ++ shownIn within x) :: shownEntries within es

end

/-- A value as it is shown inside messages. -/
def shown (d : Data) : String := d.shownIn []

/-- A value as plain text: a text is itself, everything else as in messages. -/
def plain : Data → String
  | scalar s => s.plain
  | d => d.shown

/-- Items between parentheses, as they are shown; a comma follows an item that is alone. -/
def shownRow (items : List String) : String :=
  "(" ++ ", ".intercalate items ++ (if items.length = 1 then ",)" else ")")

end Conformity.Data

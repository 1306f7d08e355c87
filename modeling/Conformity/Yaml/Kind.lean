import Conformity.Yaml.Calendar
import Conformity.Yaml.Number

/-!
# The kinds of YAML nodes

Every node has a kind. A tag names it; without a tag it follows from the text of a plain scalar, and
all other scalars are texts. The same rules tell which texts cannot be written plainly.
-/

namespace Conformity.Yaml

/-- What kind of value a node stands for. -/
inductive Kind where
  | null
  | bool
  | int
  | float
  | bytes
  | calendar
  | text
  | list
  | map
  | set
  /-- A list of pairs, each written as a mapping of one entry. -/
  | pairs
  /-- The key whose value lends its entries to the mapping around it. -/
  | merge
  /-- The key of the value that a mapping stands for. -/
  | value
  | unknown
  deriving DecidableEq, Repr

namespace Kind

/-- What the names of the known tags begin with. -/
def tagStart : String := "tag:yaml.org,2002:"

/-- The known tags behind their common beginning. -/
def tags : List (String × Kind) :=
  [("null", null), ("bool", bool), ("int", int), ("float", float), ("binary", bytes),
   ("timestamp", calendar), ("str", text), ("seq", list), ("map", map), ("set", set),
   ("omap", pairs), ("pairs", pairs), ("merge", merge), ("value", value)]

/-- The kind that a tag names. -/
def ofTag (tag : String) : Kind :=
  (tags.find? fun t => tagStart ++ t.1 == tag).elim unknown (·.2)

/-- The words for truth values, in lower case. -/
def truthWords : List (String × Bool) :=
  [("yes", true), ("no", false), ("true", true), ("false", false), ("on", true), ("off", false)]

/-- A word in lower case, capitalised, and in upper case. -/
def spellings (word : String) : List String :=
  [word, word.capitalize, word.map Char.toUpper]

/-- The kind of a plain scalar. -/
def ofPlain (s : String) : Kind :=
  let cs := s.toList
  if s.isEmpty || s == "~" || (spellings "null").contains s then null
  else if truthWords.any fun w => (spellings w.1).contains s then bool
  else if s == "<<" then merge
  else if s == "=" then value
  else if s == "!" || s == "&" || s == "*" then unknown
  else if isDecimal cs then float
  else if isWhole cs then int
  else if isCalendar cs then calendar
  else text

end Kind

/-- The truth value that a word stands for. -/
def truthValue (s : String) : Except Unreadable Bool :=
  let word := Text.lower s
  match Kind.truthWords.lookup word with
  | some b => .ok b
  | none => .error (.truth word)

end Conformity.Yaml

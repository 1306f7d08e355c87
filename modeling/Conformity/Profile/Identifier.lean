import Conformity.Text.Blank

/-!
# Names made safe

A profile name becomes part of identifiers and file names, so every character beyond ASCII letters,
digits, underscore and hyphen is replaced by an underscore. A blank name has a word of its own.
-/

namespace Conformity

/-- May a character stand in an identifier? -/
def isIdentifierSafe (c : Char) : Bool := c.isAlphanum || c == '_' || c == '-'

/-- A name as part of an identifier. -/
def safeIdentifier (name : Option String) : String :=
  match name with
  | some s =>
    if Text.isBlankText s then "unknown" else s.map fun c => if isIdentifierSafe c then c else '_'
  | none => "unknown"

end Conformity

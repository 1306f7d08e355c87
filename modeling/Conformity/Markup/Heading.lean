import Conformity.Text.Utf8
import Conformity.Text.Cut

/-!
# The heading of a document

A document may begin with a declaration of its version, its character set and whether it stands
alone. The parts come in this order, and only the version must be there.
-/

namespace Conformity.Markup

/-- What a document declares about itself. -/
structure Heading where
  version : String
  encoding : Option String := none
  standalone : Option Bool := none
  deriving DecidableEq, Repr

/-- Blanks of a document. -/
def isSpace (c : Char) : Bool := c == ' ' || c == '\t' || c == '\n' || c == '\r'

/-- Drops the blanks in front. -/
def skipSpace (cs : List Char) : List Char := cs.dropWhile isSpace

/-- Drops the blanks in front, of which there must be one. -/
def spaces? : List Char → Option (List Char)
  | c :: cs => if isSpace c then some (skipSpace cs) else none
  | [] => none

/-- Reads an equals sign with blanks around it. -/
def equals? (cs : List Char) : Option (List Char) :=
  match skipSpace cs with
  | '=' :: rest => some (skipSpace rest)
  | _ => none

/-- Reads what stands between two quotes of one kind. -/
def literal? : List Char → Option (List Char × List Char)
  | q :: rest =>
    if q == '"' || q == '\'' then
      match rest.dropWhile (· != q) with
      | _ :: after => some (rest.takeWhile (· != q), after)
      | [] => none
    else none
  | [] => none

/-- May a character stand in a value of the heading? -/
def isHeadingChar (c : Char) : Bool := c.isAlphanum || c == '.' || c == '-' || c == '_'

/-- Reads a part of the heading. -/
def headingPart? (name : String) (cs : List Char) : Option (List Char × List Char) := do
  let rest ← Text.after? name.toList cs
  let (value, rest) ← literal? (← equals? rest)
  if value.isEmpty || !value.all isHeadingChar then none else some (value, rest)

/-- Reads a part that may be missing; a part stands behind blanks. -/
def optionalPart (name : String) (cs : List Char) : Option (Option (List Char) × List Char) :=
  match spaces? cs with
  | none => some (none, cs)
  | some rest =>
    if Text.startsWith name.toList rest then (headingPart? name rest).map fun p => (some p.1, p.2)
    else some (none, cs)

/-- A truth value of the heading. -/
def yesNo? (cs : List Char) : Option Bool :=
  if cs == "yes".toList then some true else if cs == "no".toList then some false else none

namespace Heading

/-- Reads a heading behind its opening. -/
def body? (cs : List Char) : Option (Heading × List Char) := do
  let (version, rest) ← headingPart? "version" (← spaces? cs)
  let (encoding, rest) ← optionalPart "encoding" rest
  let (standalone, rest) ← optionalPart "standalone" rest
  if (encoding.bind (·.head?)).any fun c => !c.isAlpha then none
  else
    let standalone ←
      match standalone with
      | none => some none
      | some v => (yesNo? v).map some
    let rest ← Text.after? "?>".toList (skipSpace rest)
    return (⟨String.ofList version, encoding.map String.ofList, standalone⟩, rest)

/-- Reads the heading of a document, if the document begins with one; nothing if it is malformed. -/
def read? (cs : List Char) : Option (Option Heading × List Char) :=
  match Text.after? "<?xml".toList cs with
  | some (c :: rest) =>
    if isSpace c || c == '?' then (body? (c :: rest)).map fun p => (some p.1, p.2) else some (none, cs)
  | _ => some (none, cs)

/-- The character of a code. A heading has only ASCII characters, so one stands for all others. -/
def asciiChar (code : Nat) : Char := if code < 0x80 then Char.ofNat code else Text.replacementChar

/-- The heading that the codes of characters seem to begin with. -/
def ofCodes? (codes : List Nat) : Option Heading :=
  match read? (codes.map asciiChar) with
  | some (some h, _) => some h
  | _ => none

/-- The heading that bytes seem to begin with, each byte taken as a code. -/
def ofBytes? (bs : Bytes) : Option Heading := ofCodes? (bs.map UInt8.toNat)

end Heading

end Conformity.Markup

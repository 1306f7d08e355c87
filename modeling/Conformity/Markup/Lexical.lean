import Conformity.Markup.Syntax
import Conformity.Markup.NameCharacter

/-!
# The smallest parts of a document

Reading names, references, attribute values, comments and instructions. Each function takes the
characters from a place on and gives what it read with the characters behind it.
-/

namespace Conformity.Markup

/-- May a character stand in a document at all? -/
def isDocumentChar (c : Char) : Bool :=
  isSpace c || (0x20 ≤ c.toNat && c.toNat != 0xFFFE && c.toNat != 0xFFFF)

/-- Line ends of any form as single line feeds. -/
def plainLines : List Char → List Char
  | '\r' :: '\n' :: cs => '\n' :: plainLines cs
  | '\r' :: cs => '\n' :: plainLines cs
  | c :: cs => c :: plainLines cs
  | [] => []

namespace NameEdition

/-- Reads a name, in which colons may stand anywhere. -/
def name? (edition : NameEdition) : List Char → Option (String × List Char)
  | c :: cs =>
    if c == ':' || edition.isStart c then
      let rest (d : Char) : Bool := d == ':' || edition.isRest d
      some (String.ofList (c :: cs.takeWhile rest), cs.dropWhile rest)
    else none
  | [] => none

/-- Reads a token, which is like a name but may start with any of its characters. -/
def token? (edition : NameEdition) (cs : List Char) : Option (String × List Char) :=
  let rest (d : Char) : Bool := d == ':' || edition.isRest d
  let word := cs.takeWhile rest
  if word.isEmpty then none else some (String.ofList word, cs.dropWhile rest)

end NameEdition

/-- The value of a digit to a base. -/
def digit? (hexadecimal : Bool) (c : Char) : Option Nat :=
  if c.isDigit then some (c.toNat - 48)
  else if !hexadecimal then none
  else if 'a' ≤ c && c ≤ 'f' then some (c.toNat - 87)
  else if 'A' ≤ c && c ≤ 'F' then some (c.toNat - 55)
  else none

/-- The character that the digits of a reference name. -/
def charOfDigits? (hexadecimal : Bool) (digits : List Char) : Option Char :=
  if digits.isEmpty then none
  else
    match digits.mapM (digit? hexadecimal) with
    | none => none
    | some ds =>
      let n := ds.foldl (fun n d => min (n * (if hexadecimal then 16 else 10) + d) 0x110000) 0
      if n.isValidChar && isDocumentChar (Char.ofNat n) then some (Char.ofNat n) else none

/-- The entities that every document has. -/
def predefined : List (String × Char) :=
  [("lt", '<'), ("gt", '>'), ("amp", '&'), ("apos", '\''), ("quot", '"')]

/-- Reads a reference behind its ampersand. -/
def reference? (edition : NameEdition) (cs : List Char) : Option (Piece × List Char) :=
  match cs with
  | '#' :: rest =>
    let (hexadecimal, rest) :=
      match rest with
      | 'x' :: rest => (true, rest)
      | _ => (false, rest)
    let digits := rest.takeWhile Char.isAlphanum
    match rest.drop digits.length with
    | ';' :: rest => (charOfDigits? hexadecimal digits).map fun c => (.char c, rest)
    | _ => none
  | _ =>
    match edition.name? cs with
    | some (name, ';' :: rest) =>
      match predefined.lookup name with
      | some c => some (.char c, rest)
      | none => some (.entity name, rest)
    | _ => none

/-- The pieces of an attribute value; `fuel` is at least its length. -/
def piecesFrom (edition : NameEdition) : (fuel : Nat) → List Char → Option (List Piece)
  | _, [] => some []
  | 0, _ :: _ => none
  | fuel + 1, c :: cs =>
    if c == '<' then none
    else if c == '&' then do
      let (p, rest) ← reference? edition cs
      return p :: (← piecesFrom edition fuel rest)
    else do
      let rest ← piecesFrom edition fuel cs
      return .char (if isSpace c then ' ' else c) :: rest

/-- The pieces of an attribute value, blanks being spaces. -/
def pieces? (edition : NameEdition) (cs : List Char) : Option (List Piece) :=
  piecesFrom edition cs.length cs

/-- Reads an attribute value with its quotes. -/
def attributeValue? (edition : NameEdition) (cs : List Char) :
    Option (List Piece × List Char) := do
  let (value, rest) ← literal? cs
  return (← pieces? edition value, rest)

/-- What stands before a text that must follow, and what stands behind it. -/
def upTo? (ending : List Char) : (before : List Char) → List Char → Option (List Char × List Char)
  | before, [] => if ending.isEmpty then some (before.reverse, []) else none
  | before, c :: cs =>
    match Text.after? ending (c :: cs) with
    | some rest => some (before.reverse, rest)
    | none => upTo? ending (c :: before) cs

/-- Reads a comment behind its opening. -/
def comment? (cs : List Char) : Option (String × List Char) :=
  match upTo? "--".toList [] cs with
  | some (content, '>' :: rest) => some (String.ofList content, rest)
  | _ => none

/-- Is a name kept for the heading? -/
def isReservedTarget (name : String) : Bool := name.map Char.toLower == "xml"

/-- Reads an instruction behind its opening. -/
def instruction? (edition : NameEdition) (cs : List Char) :
    Option ((String × Option String) × List Char) := do
  let (target, rest) ← edition.name? cs
  if isReservedTarget target then none
  else
    match Text.after? "?>".toList rest with
    | some rest => return ((target, none), rest)
    | none =>
      let (data, rest) ← upTo? "?>".toList [] (← spaces? rest)
      return ((target, some (String.ofList data)), rest)

/-- Reads the comments, instructions and blanks from a place on. -/
def miscellany (edition : NameEdition) : (fuel : Nat) → (read : List Written) → List Char →
    Option (List Written × List Char)
  | 0, read, cs => some (read.reverse, cs)
  | fuel + 1, read, cs =>
    let cs := skipSpace cs
    match Text.after? "<!--".toList cs with
    | some rest => do
      let (content, rest) ← comment? rest
      miscellany edition fuel (.comment content :: read) rest
    | none =>
      match Text.after? "<?".toList cs with
      | some rest => do
        let ((target, data), rest) ← instruction? edition rest
        miscellany edition fuel (.instruction target data :: read) rest
      | none => some (read.reverse, cs)

end Conformity.Markup

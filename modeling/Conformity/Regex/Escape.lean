import Conformity.Regex.Token
import Conformity.Regex.Expr
import Conformity.Text.CharName

/-!
# Escape sequences

What a backslash and the characters behind it stand for: a character given by its code or name, a
class of characters, a place, or the text of an earlier group.
-/

namespace Conformity.Regex

/-- What an escape sequence stands for. -/
inductive Escape where
  | code (n : Nat)
  | category (kind : Category) (negated : Bool)
  | textStart
  | textEnd
  | wordBoundary
  | noWordBoundary
  | group (n : Nat)

/-- The value of a hexadecimal digit. -/
def hexDigitValue (c : Char) : Nat :=
  if c.isDigit then c.toNat - 48 else if c.isLower then c.toNat - 87 else c.toNat - 55

/-- A hexadecimal digit. -/
def isHexDigit (c : Char) : Bool :=
  c.isDigit || ('a' ≤ c && c ≤ 'f') || ('A' ≤ c && c ≤ 'F')

/-- An octal digit. -/
def isOctDigit (c : Char) : Bool := '0' ≤ c && c ≤ '7'

/-- The number that digits write in a base. -/
def numberIn (base : Nat) (cs : List Char) : Nat :=
  cs.foldl (fun n c => n * base + hexDigitValue c) 0

/-- The control characters that have a letter of their own. -/
def controlCode? : Char → Option Nat
  | 'a' => some 7
  | 'b' => some 8
  | 'f' => some 12
  | 'n' => some 10
  | 'r' => some 13
  | 't' => some 9
  | 'v' => some 11
  | '\\' => some 92
  | _ => none

/-- The classes that have a letter of their own. -/
def category? : Char → Option (Category × Bool)
  | 'd' => some (.digit, false)
  | 'D' => some (.digit, true)
  | 's' => some (.space, false)
  | 'S' => some (.space, true)
  | 'w' => some (.word, false)
  | 'W' => some (.word, true)
  | _ => none

/-- A character given by exactly `size` hexadecimal digits behind the letter `c`. -/
def readHex (start : Nat) (c : Char) (size : Nat) (rest : Rest) : Except Fault (Nat × Rest) := do
  let (digits, rest) ← acceptWhile isHexDigit size rest
  let escape := '\\' :: c :: digits
  if digits.length != size then throw (faultAt (.incompleteEscape escape) start)
  let n := numberIn 16 digits
  if n > 0x10FFFF then throw (faultAt (.badEscape escape) start)
  return (n, rest)

/-- A character given by its name between braces. -/
def readCharName (total start : Nat) (rest : Rest) : Except Fault (Nat × Rest) := do
  let (opened, rest) ← accept (Char.ofNat 123) rest
  if !opened then throw (faultAt (.missing (String.ofList [Char.ofNat 123])) (rest.tell total))
  let (name, rest) ← readName total (rest.tell total) (Char.ofNat 125) "character name" [] rest
  match Text.charNamed? name with
  | some n => return (n, rest)
  | none => throw (faultAt (.unknownCharName name) start)

/-- An escape that means the same inside and outside a set: hexadecimal codes, names, and any
character but an ASCII letter or digit for itself. -/
def readCommonEscape (total start : Nat) (c : Char) (rest : Rest) :
    Except Fault (Nat × Rest) := do
  if c == 'x' then readHex start c 2 rest
  else if c == 'u' then readHex start c 4 rest
  else if c == 'U' then readHex start c 8 rest
  else if c == 'N' then readCharName total start rest
  else if c.isAlphanum then throw (faultAt (.badEscape ['\\', c]) start)
  else return (c.toNat, rest)

/-- An octal number that starts with the digit `c`: refused when it exceeds one byte. -/
def readOctal (start : Nat) (c : Char) (rest : Rest) : Except Fault (Nat × Rest) := do
  let (more, rest) ← acceptWhile isOctDigit 2 rest
  let n := numberIn 8 (c :: more)
  if n > 0o377 then throw (faultAt (.octalTooLarge ('\\' :: c :: more)) start)
  return (n, rest)

/-- Reads the rest of an escape sequence inside a set. -/
def readSetEscape (total start : Nat) (c : Char) (rest : Rest) : Except Fault (SetItem × Rest) := do
  match controlCode? c with
  | some n => return (.one n, rest)
  | none =>
    match category? c with
    | some (kind, negated) => return (.category kind negated, rest)
    | none =>
      let (n, rest) ← if isOctDigit c then readOctal start c rest
        else readCommonEscape total start c rest
      return (.one n, rest)

/-- A decimal digit and what follows it: an octal code of three digits, or the number of a group. -/
def readNumber (start : Nat) (c : Char) (rest : Rest) : Except Fault (Escape × Nat × Rest) := do
  let (second, rest) ← acceptWhile Char.isDigit 1 rest
  match second with
  | [d] =>
    if isOctDigit c && isOctDigit d then
      let (third, rest) ← acceptWhile isOctDigit 1 rest
      match third with
      | [e] =>
        let n := numberIn 8 [c, d, e]
        if n > 0o377 then throw (faultAt (.octalTooLarge ['\\', c, d, e]) start)
        return (.code n, 4, rest)
      | _ => return (.group (numberIn 10 [c, d]), 3, rest)
    else return (.group (numberIn 10 [c, d]), 3, rest)
  | _ => return (.group (numberIn 10 [c]), 2, rest)

/-- Reads the rest of an escape sequence outside a set. -/
def readEscape (total start : Nat) (c : Char) (rest : Rest) : Except Fault (Escape × Rest) := do
  match c with
  | 'A' => return (.textStart, rest)
  | 'Z' => return (.textEnd, rest)
  | 'b' => return (.wordBoundary, rest)
  | 'B' => return (.noWordBoundary, rest)
  | _ =>
    match category? c with
    | some (kind, negated) => return (.category kind negated, rest)
    | none =>
      match controlCode? c with
      | some n => return (.code n, rest)
      | none =>
        if c == '0' then
          let (more, rest) ← acceptWhile isOctDigit 2 rest
          return (.code (numberIn 8 more), rest)
        else if c.isDigit then
          let (escape, _, rest) ← readNumber start c rest
          return (escape, rest)
        else
          let (n, rest) ← readCommonEscape total start c rest
          return (.code n, rest)

/-- The characters that have a meaning of their own in a pattern. -/
def specialChars : List Char :=
  "()[]".toList ++ [Char.ofNat 123, Char.ofNat 125] ++ "?*+-|^$\\.&~# \t\n\r".toList ++
    [Char.ofNat 11, Char.ofNat 12]

/-- A pattern that stands for exactly the given text: every character with a meaning of its own
behind a backslash. -/
def literalPattern (cs : List Char) : List Char :=
  cs.flatMap fun c => if specialChars.contains c then ['\\', c] else [c]

end Conformity.Regex

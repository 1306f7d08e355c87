import Conformity.Text.Printable

/-!
# Quoted text in messages

A text is shown between apostrophes, or between double quotes when it holds an apostrophe and no
double quote. The quote in use, the backslash and whatever is not printable are escaped, so the
shown form is a single line.
-/

namespace Conformity.Text

/-- The lower-case hexadecimal digit of a value below sixteen. -/
def hexDigit (n : Nat) : Char :=
  if n < 10 then Char.ofNat (48 + n) else Char.ofNat (87 + n)

/-- The last `width` hexadecimal digits of `n`, most significant first. -/
def hexDigits : (width : Nat) → Nat → List Char
  | 0, _ => []
  | width + 1, n => hexDigits width (n / 16) ++ [hexDigit (n % 16)]

/-- How a quoted text shows one character, `quote` being the quote in use. -/
def escapeChar (quote c : Char) : List Char :=
  if c == quote || c == '\\' then ['\\', c]
  else if c == '\t' then ['\\', 't']
  else if c == '\n' then ['\\', 'n']
  else if c == '\r' then ['\\', 'r']
  else if isPrintable c then [c]
  else if c.toNat < 0x100 then '\\' :: 'x' :: hexDigits 2 c.toNat
  else if c.toNat < 0x10000 then '\\' :: 'u' :: hexDigits 4 c.toNat
  else '\\' :: 'U' :: hexDigits 8 c.toNat

/-- The quote a text is shown in. -/
def quoteFor (cs : List Char) : Char :=
  if cs.contains '\'' && !cs.contains '"' then '"' else '\''

/-- A text between quotes, with what would not show on a line escaped. -/
def quoted (s : String) : String :=
  let cs := s.toList
  let quote := quoteFor cs
  String.ofList (quote :: (cs.flatMap (escapeChar quote) ++ [quote]))

/-- How quoted bytes show one byte. -/
def escapeByte (quote : Char) (b : UInt8) : List Char :=
  let c := Char.ofNat b.toNat
  if c == quote || c == '\\' then ['\\', c]
  else if c == '\t' then ['\\', 't']
  else if c == '\n' then ['\\', 'n']
  else if c == '\r' then ['\\', 'r']
  else if 0x20 ≤ b.toNat && b.toNat < 0x7F then [c]
  else '\\' :: 'x' :: hexDigits 2 b.toNat

/-- Bytes between quotes behind the letter b. -/
def quotedBytes (bs : List UInt8) : String :=
  let quote := quoteFor (bs.map fun b => Char.ofNat b.toNat)
  String.ofList ('b' :: quote :: (bs.flatMap (escapeByte quote) ++ [quote]))

/-- A list as it is shown in messages: the shown items between brackets. -/
def quotedList (items : List String) : String :=
  "[" ++ ", ".intercalate (items.map quoted) ++ "]"

end Conformity.Text

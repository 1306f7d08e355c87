import Conformity.Markup.Charset

/-!
# The characters of a YAML stream

A stream is a sequence of printable characters, written in UTF-8 or, behind a byte order mark, in
UTF-16. A cursor stands somewhere in a stream and knows its line and column; the end of the stream
counts as a blank.
-/

namespace Conformity.Yaml

/-- The byte order mark. -/
def byteOrderMark : Char := Char.ofNat 0xFEFF

/-- A character that ends a line. -/
def isBreak (c : Char) : Bool :=
  c == '\n' || c == '\r' || c.toNat == 0x85 || c.toNat == 0x2028 || c.toNat == 0x2029

/-- A space, a tabulator or a line break. -/
def isBlank (c : Char) : Bool := c == ' ' || c == '\t' || isBreak c

/-- A character that a stream may hold. -/
def isAllowed (c : Char) : Bool :=
  let n := c.toNat
  n == 0x9 || n == 0xA || n == 0xD || (0x20 ≤ n && n ≤ 0x7E) || n == 0x85 ||
    (0xA0 ≤ n && n ≤ 0xD7FF) || (0xE000 ≤ n && n ≤ 0xFFFD) || 0x10000 ≤ n

/-- A letter, digit, hyphen or underscore of ASCII. -/
def isWordChar (c : Char) : Bool := c.isAlphanum || c == '-' || c == '_'

/-- The characters of a stream. -/
def charsOf? (bs : Bytes) : Option (List Char) :=
  let cs :=
    match bs with
    | 0xFF :: 0xFE :: _ => Markup.Charset.decode? (.utf16 false) bs
    | 0xFE :: 0xFF :: _ => Markup.Charset.decode? (.utf16 true) bs
    | _ => Text.decode? bs
  cs.filter fun cs => cs.all isAllowed

/-- A place in a stream. -/
structure Cursor where
  rest : List Char
  index : Nat := 0
  line : Nat := 0
  column : Nat := 0

namespace Cursor

/-- The next character. -/
def next? (c : Cursor) : Option Char := c.rest.head?

/-- Moves behind the next character. -/
def step (c : Cursor) : Cursor :=
  match c.rest with
  | [] => c
  | ch :: rest =>
    if isBreak ch && !(ch == '\r' && rest.head? == some '\n') then
      ⟨rest, c.index + 1, c.line + 1, 0⟩
    else ⟨rest, c.index + 1, c.line, if ch == byteOrderMark then c.column else c.column + 1⟩

/-- Moves behind `n` characters. -/
def skip : (n : Nat) → Cursor → Cursor
  | 0, c => c
  | n + 1, c => skip n c.step

/-- The characters of the run in front that satisfy a condition. -/
def run (p : Char → Bool) (c : Cursor) : List Char := c.rest.takeWhile p

/-- Moves behind the characters that satisfy a condition. -/
def skipRun (p : Char → Bool) (c : Cursor) : Cursor := c.skip (c.run p).length

/-- Moves behind spaces. -/
def skipSpaces (c : Cursor) : Cursor := c.skipRun (· == ' ')

/-- Moves behind spaces as long as the column is less than `indent`. -/
def skipIndent (indent : Nat) (c : Cursor) : Cursor :=
  c.skip (min (c.run (· == ' ')).length (indent - c.column))

/-- Does the stream end here, or does a character follow that satisfies a condition? -/
def endsOr (p : Char → Bool) (c : Cursor) : Bool := c.next?.all p

/-- Does a line break or the end of the stream follow? -/
def atLineEnd (c : Cursor) : Bool := c.endsOr isBreak

/-- Does a blank or the end of the stream follow? -/
def atBlank (c : Cursor) : Bool := c.endsOr isBlank

/-- Does a space, a line break or the end of the stream follow? -/
def atGap (c : Cursor) : Bool := c.endsOr fun ch => ch == ' ' || isBreak ch

/-- Does a line break follow? -/
def atBreak (c : Cursor) : Bool := c.next?.any isBreak

/-- Reads a line break; those of the first four kinds all read as a line feed. -/
def lineBreak (c : Cursor) : List Char × Cursor :=
  match c.rest with
  | '\r' :: '\n' :: _ => (['\n'], c.skip 2)
  | ch :: _ =>
    if isBreak ch then ([if 0x2028 ≤ ch.toNat then ch else '\n'], c.step) else ([], c)
  | [] => ([], c)

/-- Does a line of three equal signs begin here, which separates documents? -/
def atSeparator (c : Cursor) : Bool :=
  let behind := (c.skip 3).atBlank
  match c.rest with
  | '-' :: '-' :: '-' :: _ => behind
  | '.' :: '.' :: '.' :: _ => behind
  | _ => false

/-- Moves behind a comment, if one begins here. -/
def skipComment (c : Cursor) : Cursor :=
  if c.next? == some '#' then c.skipRun (!isBreak ·) else c

end Cursor

end Conformity.Yaml

import Conformity.Text.Quoted
import Conformity.Yaml.Character
import Conformity.Yaml.Kind

/-!
# Writing scalars of YAML

A page is a text that is being written, with the column it has reached. A text is written plainly
where that reads back as the same text; otherwise between single quotes, or between double quotes
where it holds characters that need escapes. Lines are folded at spaces beyond column 80.
-/

namespace Conformity.Yaml

/-- A text that is being written. -/
structure Page where
  /-- What is written, last character first. -/
  written : List Char := []
  column : Nat := 0
  /-- Does it end with a blank, or with nothing at all? -/
  blank : Bool := true
  /-- Does its last line hold nothing but indentation and the marks of entries? -/
  fresh : Bool := true

namespace Page

/-- The column beyond which lines are folded. -/
def width : Nat := 80

/-- Writes characters. -/
def put (cs : List Char) (p : Page) : Page :=
  { p with written := cs.reverse ++ p.written, column := p.column + cs.length }

/-- Ends the line. -/
def newline (c : Char) (p : Page) : Page := ⟨c :: p.written, 0, true, true⟩

/-- Writes spaces up to a column, on a new line if the present one is in use. -/
def indentTo (column : Nat) (p : Page) : Page :=
  let p :=
    if !p.fresh || column < p.column || (p.column = column && !p.blank) then p.newline '\n' else p
  if p.column < column then
    { p.put (List.replicate (column - p.column) ' ') with blank := true }
  else p

/-- Writes a mark, with a space in front of it if `spaced` and none is there. -/
def mark (s : String) (spaced : Bool) (p : Page) : Page :=
  let cs := if p.blank || !spaced then s.toList else ' ' :: s.toList
  { p.put cs with blank := false, fresh := false }

/-- Writes the mark of an entry, behind which the line still counts as fresh. -/
def markEntry (s : String) (p : Page) : Page := { p.mark s true with fresh := p.fresh }

end Page

/-! ## The forms of a text -/

/-- How a scalar is written. -/
inductive Style where
  | plain
  | single
  | double
  deriving DecidableEq, Repr

/-- A character that ends a line of a scalar that is written. -/
def isWrittenBreak (c : Char) : Bool := c != '\r' && isBreak c

/-- A character that is written as it is in every form. -/
def isOrdinary (c : Char) : Bool :=
  let n := c.toNat
  c == '\n' || (0x20 ≤ n && n ≤ 0x7E) ||
    ((n == 0x85 || (0xA0 ≤ n && n ≤ 0xD7FF) || (0xE000 ≤ n && n ≤ 0xFFFD) ||
      (0x10000 ≤ n && n < 0x10FFFF)) && c != byteOrderMark)

/-- Is a blank or NUL here, or the end? -/
def blankAhead (cs : List Char) : Bool := cs.head?.all fun c => c.toNat == 0 || isBlank c

/-- Does a text hold an indicator that a plain scalar cannot hold? `first` is true at the beginning of
the text, `afterBlank` behind a blank. -/
def hasIndicator (first afterBlank : Bool) : List Char → Bool
  | [] => false
  | c :: cs =>
    let here :=
      if first then
        "#,[]\x7b\x7d&*!|>'\"%@\x60".toList.contains c || ("?:-".toList.contains c && blankAhead cs)
      else (c == ':' && blankAhead cs) || (c == '#' && afterBlank)
    here || hasIndicator false (blankAhead [c]) cs

/-- Does a text begin like the separator of documents? -/
def startsAsSeparator (cs : List Char) : Bool :=
  cs.take 3 == "---".toList || cs.take 3 == "...".toList

/-- Does a character that satisfies `p` stand in front of one that satisfies `q`? -/
def hasNeighbours (p q : Char → Bool) : List Char → Bool
  | c :: d :: cs => (p c && q d) || hasNeighbours p q (d :: cs)
  | _ => false

/-- May a text be written between single quotes? -/
def allowsSingle (cs : List Char) : Bool :=
  cs.all isOrdinary && !hasNeighbours (· == ' ') isWrittenBreak cs &&
    !hasNeighbours isWrittenBreak (· == ' ') cs

/-- May a text be written without quotes? -/
def allowsPlain (cs : List Char) : Bool :=
  let edge (c : Option Char) : Bool := c == some ' '
  allowsSingle cs && !cs.any isWrittenBreak && !edge cs.head? && !edge cs.getLast? &&
    !startsAsSeparator cs && !hasIndicator true true cs

/-- How a text is written, `asKey` being true in front of the colon on the same line. -/
def Style.ofText (asKey : Bool) (s : String) : Style :=
  let cs := s.toList
  if Kind.ofPlain s == .text && allowsPlain cs then .plain
  else if allowsSingle cs && !(asKey && cs.any isWrittenBreak) then .single
  else .double

/-! ## Writing a text -/

/-- A run of characters of one sort. -/
inductive Run where
  | word (cs : List Char)
  | spaces (n : Nat)
  | breaks (cs : List Char)

/-- The runs of a text. -/
def runs : List Char → List Run
  | [] => []
  | c :: cs =>
    if c == ' ' then
      match runs cs with
      | .spaces n :: rs => .spaces (n + 1) :: rs
      | rs => .spaces 1 :: rs
    else if isWrittenBreak c then
      match runs cs with
      | .breaks ds :: rs => .breaks (c :: ds) :: rs
      | rs => .breaks [c] :: rs
    else
      match runs cs with
      | .word ds :: rs => .word (c :: ds) :: rs
      | rs => .word [c] :: rs

namespace Page

/-- Writes the runs of a plain text. -/
def putPlainRuns (indent : Nat) (folds : Bool) : List Run → Page → Page
  | [], p => p
  | .spaces n :: rs, p =>
    let p :=
      if n = 1 && width < p.column && folds then
        { p.indentTo indent with blank := false, fresh := false }
      else p.put (List.replicate n ' ')
    putPlainRuns indent folds rs p
  | .word cs :: rs, p => putPlainRuns indent folds rs (p.put cs)
  | .breaks cs :: rs, p => putPlainRuns indent folds rs (p.put cs)

/-- Writes a text without quotes. -/
def putPlain (indent : Nat) (folds : Bool) (cs : List Char) (p : Page) : Page :=
  if cs.isEmpty then p
  else
    let p := if p.blank then p else p.put [' ']
    putPlainRuns indent folds (runs cs) { p with blank := false, fresh := false }

/-- Writes the runs of a text between single quotes; is the next run the first? -/
def putSingleRuns (indent : Nat) (folds : Bool) : (first : Bool) → List Run → Page → Page
  | _, [], p => p
  | first, .spaces n :: rs, p =>
    let p :=
      if n = 1 && width < p.column && folds && !first && !rs.isEmpty then p.indentTo indent
      else p.put (List.replicate n ' ')
    putSingleRuns indent folds false rs p
  | _, .breaks cs :: rs, p =>
    let p := if cs.head? == some '\n' then p.newline '\n' else p
    putSingleRuns indent folds false rs ((cs.foldl (fun p c => p.newline c) p).indentTo indent)
  | _, .word cs :: rs, p =>
    putSingleRuns indent folds false rs
      (p.put (cs.flatMap fun c => if c == '\'' then ['\'', '\''] else [c]))

/-- Writes a text between single quotes. -/
def putSingle (indent : Nat) (folds : Bool) (cs : List Char) (p : Page) : Page :=
  (putSingleRuns indent folds true (runs cs) (p.mark "'" true)).mark "'" false

/-- Upper-case hexadecimal digits. -/
def upperHex (width n : Nat) : List Char := (Text.hexDigits width n).map Char.toUpper

/-- How a character is written between double quotes, if not as it is. -/
def doubleEscape? (c : Char) : Option (List Char) :=
  let n := c.toNat
  if c == '"' || c == '\\' then some ['\\', c]
  else if (0x20 ≤ n && n ≤ 0x7E) || (0xA0 ≤ n && n ≤ 0xFFFD && n != 0x2028 && n != 0x2029 &&
      c != byteOrderMark) then none
  else
    let letters : List (Nat × Char) :=
      [(0, '0'), (7, 'a'), (8, 'b'), (9, 't'), (0xA, 'n'), (0xB, 'v'), (0xC, 'f'), (0xD, 'r'),
       (0x1B, 'e'), (0x85, 'N'), (0x2028, 'L'), (0x2029, 'P')]
    match letters.lookup n with
    | some l => some ['\\', l]
    | none =>
      some ('\\' ::
        if n ≤ 0xFF then 'x' :: upperHex 2 n
        else if n ≤ 0xFFFF then 'u' :: upperHex 4 n
        else 'U' :: upperHex 8 n)

/-- Folds a line between double quotes in front of `next`. -/
def foldDouble (indent : Nat) (next : Option Char) (p : Page) : Page :=
  let p := { (p.put ['\\']).indentTo indent with blank := false, fresh := false }
  if next == some ' ' then p.put ['\\'] else p

/-- Writes the characters of a text between double quotes. The text may be folded at a space and next
to an escape, but not at its first and last characters. -/
def putDoubleChars (indent : Nat) (folds : Bool) : (first behindEscape : Bool) → List Char → Page → Page
  | _, _, [], p => p
  | first, behindEscape, c :: cs, p =>
    let inner := folds && !first && !cs.isEmpty
    match doubleEscape? c with
    | some escape =>
      let p := p.put escape
      let p := if inner && width + 1 < p.column then p.foldDouble indent cs.head? else p
      putDoubleChars indent folds false true cs p
    | none =>
      let p :=
        if inner && (c == ' ' || behindEscape) && width < p.column then p.foldDouble indent (some c)
        else p
      putDoubleChars indent folds false false cs (p.put [c])

/-- Writes a text between double quotes. -/
def putDouble (indent : Nat) (folds : Bool) (cs : List Char) (p : Page) : Page :=
  (putDoubleChars indent folds true false cs (p.mark "\"" true)).mark "\"" false

/-- Writes a text as a value, or as a key in front of the colon on the same line. -/
def putText (indent : Nat) (asKey : Bool) (s : String) (p : Page) : Page :=
  match Style.ofText asKey s with
  | .plain => p.putPlain indent (!asKey) s.toList
  | .single => p.putSingle indent (!asKey) s.toList
  | .double => p.putDouble indent (!asKey) s.toList

/-- Writes lines as a block. -/
def putLines (indent : Nat) (lines : List (List Char)) (p : Page) : Page :=
  lines.foldl (fun p line => ((p.indentTo indent).put line).newline '\n')
    ((p.mark "|" true).newline '\n')

end Page

end Conformity.Yaml

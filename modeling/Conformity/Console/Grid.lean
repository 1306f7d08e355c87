import Conformity.Console.Styled
import Conformity.Decimal.Double
import Conformity.Text.Blank
import Conformity.Text.Cut
import Conformity.Text.Width

/-!
# Grids

A grid shows rows of texts in columns, below a title and the names of the columns. Each column is as
wide as its widest text. If all columns together are too wide for the terminal, the widest ones give
way, and their texts are folded between words: a word that does not fit begins a new line. What to do with
a word that is wider than a line is for the caller: it is cut into lines, or it stands on a line of its
own, which is then cut short.
-/

namespace Conformity.Console

open Text

/-! ## Folding lines -/

/-- The words of a text, each with the blanks behind it, the first one with those in front of it too;
`word` is the current word so far, last character first, and `ended` tells whether blanks follow it. -/
def wordsFrom (word : List Char) (ended : Bool) : List Char → List (List Char)
  | [] => if word.all isBlank then [] else [word.reverse]
  | c :: cs =>
    if isBlank c then wordsFrom (c :: word) (!word.all isBlank) cs
    else if ended then word.reverse :: wordsFrom [c] false cs
    else wordsFrom (c :: word) false cs

/-- A word cut into parts of a width, `part` being the current one so far, last character first. -/
def chopFrom (limit : Nat) (part : List Char) : List Char → List (List Char)
  | [] => [part.reverse]
  | c :: cs =>
    if limit < width part + charWidth c then part.reverse :: chopFrom limit [c] cs
    else chopFrom limit (c :: part) cs

/-- A line in the making: the lines that are finished, last one first, and the present one with the
width that counts for it. -/
structure Folding where
  done : List (List Char) := []
  line : List Char := []
  used : Nat := 0

namespace Folding

/-- Begins a new line with a word, unless it would be the first one. -/
def begin (f : Folding) (word : List Char) : Folding :=
  if f.line.isEmpty && f.done.isEmpty then ⟨[], word, width word⟩
  else ⟨f.line :: f.done, word, width word⟩

/-- Adds a word. -/
def add (limit : Nat) (cut : Bool) (f : Folding) (word : List Char) : Folding :=
  let needed := width (trimEnd word)
  if f.used + needed ≤ limit then { f with line := f.line ++ word, used := f.used + width word }
  else if cut && limit < needed then (chopFrom limit [] word).foldl begin f
  else f.begin word

/-- All lines. -/
def lines (f : Folding) : List (List Char) := (f.line :: f.done).reverse

end Folding

/-- A line folded to a width. Words that are wider are cut if `cut` says so. -/
def folded (limit : Nat) (cut : Bool) (line : List Char) : List (List Char) :=
  match wordsFrom [] false line with
  | [] => [line]
  | words => (words.foldl (Folding.add limit cut) {}).lines

/-- Drops blanks at the end of a line that is too long, as far as it is too long. -/
def trimExcess (limit : Nat) (line : List Char) : List Char :=
  let blanks := (line.reverse.takeWhile isBlank).length
  line.take (line.length - min blanks (line.length - limit))

/-- The front of a line that takes up a width; a space stands in for half of a wide character. -/
def front (limit : Nat) : List Char → List Char
  | [] => List.replicate limit ' '
  | c :: cs =>
    if charWidth c ≤ limit then
      if limit = 0 then [] else c :: front (limit - charWidth c) cs
    else List.replicate limit ' '

/-- Sets tabs to the next eighth cell, `at_` being the number of cells so far. -/
def withoutTabs (at_ : Nat) : List Char → List Char
  | [] => []
  | c :: cs =>
    if c == '\t' then
      let blanks := 8 - at_ % 8
      List.replicate blanks ' ' ++ withoutTabs (at_ + blanks) cs
    else c :: withoutTabs (at_ + charWidth c) cs

/-- The width of the terminal. -/
def screenWidth : Nat := 1000

/-- A paragraph as the lines of the terminal. -/
def paragraph (text : List Char) : List (List Char) :=
  (split '\n' text).flatMap fun line =>
    (folded screenWidth true (withoutTabs 0 line)).map fun part =>
      let part := trimExcess screenWidth part
      if screenWidth < width part then front screenWidth part else part

/-! ## Columns and rows -/

/-- A column. -/
structure Column where
  name : String
  /-- Do its texts stand at the right? -/
  right : Bool := false
  deriving DecidableEq, Repr

/-- A grid. -/
structure Grid where
  title : String
  columns : List Column
  rows : List (List String)
  deriving DecidableEq, Repr

namespace Grid

/-- The cells that the frame takes up around and between columns. -/
def frameWidth (columns : Nat) : Nat := columns + 1

/-- The lines of a text, ended by any of the characters that end lines. -/
def lineLengths (current : Nat) : List Char → List Nat
  | [] => [current]
  | c :: cs =>
    if [0xA, 0xB, 0xC, 0xD, 0x1C, 0x1D, 0x1E, 0x85, 0x2028, 0x2029].contains c.toNat then
      current :: lineLengths 0 cs
    else lineLengths (current + charWidth c) cs

/-- The width of the widest line of a text, with a space at each side. -/
def cellWidth (text : List Char) : Nat := (lineLengths 0 text).foldl max 0 + 2

/-- The widths of columns, given by their texts from top to bottom. -/
def naturalWidths (columns : List (List (List Char))) : List Nat :=
  columns.map fun texts => (texts.map cellWidth).foldl max 0

/-- All widths together. -/
def total : List Nat → Nat
  | [] => 0
  | w :: ws => w + total ws

/-- Takes `excess` in even shares from the widths that are marked, at most `most` from each. -/
def reduce (excess most : Nat) (shares : List (Nat × Bool)) : List Nat :=
  go excess (shares.filter (·.2)).length shares
where
  /-- Takes what is left from those that are left. -/
  go (left count : Nat) : List (Nat × Bool) → List Nat
    | [] => []
    | (w, false) :: rest => w :: go left count rest
    | (w, true) :: rest =>
      let taken := min (min most w) (Double.roundDiv left count)
      (w - taken) :: go (left - taken) (count - 1) rest

/-- Narrows the widest columns to the next widest ones until all fit into `limit`; each step leaves
fewer different widths, so `fuel` steps suffice for that many columns. -/
def collapse (limit : Nat) : (fuel : Nat) → List Nat → List Nat
  | 0, widths => widths
  | fuel + 1, widths =>
    let excess := total widths - limit
    let widest := widths.foldl max 0
    let second := (widths.filter (· != widest)).foldl max 0
    if excess = 0 || widest = second then widths
    else
      collapse limit fuel
        (reduce excess (min excess (widest - second)) (widths.map fun w => (w, w == widest)))

/-- The widths of columns that fit into the terminal. -/
def fitted (widths : List Nat) : List Nat :=
  let limit := screenWidth - frameWidth widths.length
  if total widths ≤ limit then widths
  else
    let narrow := collapse limit (total widths + 1) widths
    if total narrow ≤ limit then narrow
    else reduce (total narrow - limit) (narrow.foldl max 0) (narrow.map fun w => (w, true))

/-- A line cut short to a width, and filled up to it. -/
def filled (right : Bool) (limit : Nat) (line : List Char) : List Char :=
  let line := if right then trimEnd line else line
  let line := if limit < width line then front (limit - 1) line ++ ['…'] else line
  let blanks := List.replicate (limit - width line) ' '
  if right then blanks ++ line else line ++ blanks

/-- The lines of a cell, each with a space at both sides. -/
def cellLines (right : Bool) (columnWidth : Nat) (text : List Char) : List (List Char) :=
  let inner := columnWidth - 2
  (split '\n' text).flatMap fun line =>
    (folded inner false (withoutTabs 0 line)).map fun part =>
      ' ' :: filled right inner (trimExcess inner part) ++ [' ']

/-- The lines of a row between bars. -/
def rowLines (bar : Char) (columns : List (Nat × Bool)) (row : List (List Char)) :
    List (List Char) :=
  let cells := (columns.zip row).map fun (c, text) => cellLines c.2 c.1 text
  let height := (cells.map List.length).foldl max 0
  (List.range height).map fun i =>
    let parts := (columns.zip cells).map fun (c, lines) =>
      (lines[i]?).getD (List.replicate c.1 ' ')
    bar :: [bar].intercalate parts ++ [bar]

/-- A line of the frame. -/
def rule (left line cross right : Char) (widths : List Nat) : List Char :=
  left :: [cross].intercalate (widths.map fun w => List.replicate w line) ++ [right]

/-- A title in the middle above a width. -/
def titleLine (limit : Nat) (title : List Char) : List Char :=
  let before := List.replicate ((limit - width title) / 2) ' '
  let line := before ++ title
  line ++ List.replicate (limit - width line) ' '

/-- The columns of rows. -/
def transposed (count : Nat) (rows : List (List (List Char))) : List (List (List Char)) :=
  (List.range count).map fun i => rows.map fun row => (row[i]?).getD []

/-- A grid as the lines of the terminal. -/
def lines (g : Grid) : Except TagFault (List (List Char)) := do
  let title ← seen g.title
  let header ← g.columns.mapM fun c => seen c.name
  let rows ← g.rows.mapM fun row => row.mapM seen
  let widths := fitted (naturalWidths (transposed g.columns.length (header :: rows)))
  let columns := widths.zip (g.columns.map Column.right)
  return titleLine (total widths + frameWidth widths.length) title ::
    rule '┏' '━' '┳' '┓' widths :: rowLines '┃' columns header ++
    rule '┡' '━' '╇' '┩' widths :: rows.flatMap (rowLines '│' columns) ++
    [rule '└' '─' '┴' '┘' widths]

end Grid

end Conformity.Console

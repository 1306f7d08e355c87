import Conformity.Data.Json
import Conformity.Yaml.Character
import Conformity.Yaml.Fault

/-!
# The texts of YAML scalars

A scalar is plain, quoted, or a block of lines. Plain and quoted scalars may run over several lines:
a single line break between two lines of text reads as a space, and of several line breaks the first
one is dropped. Single quotes hold no escapes but the doubled quote; double quotes hold escapes. A
block keeps its lines or folds them, and keeps, clips or strips the line breaks at its end. Texts are
collected last character first.
-/

namespace Conformity.Yaml

/-- A text read so far, last character first, and the place behind it. -/
abbrev TextSoFar := List Char × Cursor

/-- The text that a line break and the line breaks behind it read as. -/
def foldedBreaks (first others : List Char) : List Char :=
  if first != ['\n'] then first ++ others else if others.isEmpty then [' '] else others

/-! ## Plain scalars -/

/-- The characters of a plain scalar up to a blank or an indicator that ends it. -/
def plainWord (inFlow : Bool) : List Char → List Char
  | [] => []
  | c :: rest =>
    let ends := fun d => isBlank d || (inFlow && ",[]\x7b\x7d".toList.contains d)
    if isBlank c || (c == ':' && rest.head?.all ends) || (inFlow && ",?[]\x7b\x7d".toList.contains c)
    then []
    else c :: plainWord inFlow rest

/-- Reads line breaks and spaces in front of the next line of a plain scalar; nothing if the document
ends there. -/
def plainBreaks : (fuel : Nat) → (breaks : List Char) → Cursor → Option (List Char) × Cursor
  | 0, _, c => (none, c)
  | fuel + 1, breaks, c =>
    if c.next? == some ' ' then plainBreaks fuel breaks c.step
    else if c.atBreak then
      let (b, c) := c.lineBreak
      if c.atSeparator then (none, c) else plainBreaks fuel (breaks ++ b) c
    else (some breaks, c)

/-- What stands between two words of a plain scalar. -/
structure PlainGap where
  text : List Char
  /-- Does the gap hold a line break? -/
  broken : Bool

/-- Reads what stands behind a word of a plain scalar. -/
def plainGap (c : Cursor) : PlainGap × Cursor :=
  let spaces := c.run (· == ' ')
  let c := c.skip spaces.length
  if c.atBreak then
    let (first, c) := c.lineBreak
    if c.atSeparator then (⟨[], true⟩, c)
    else
      match plainBreaks (c.rest.length + 1) [] c with
      | (some breaks, c) => (⟨foldedBreaks first breaks, true⟩, c)
      | (none, c) => (⟨[], true⟩, c)
  else (⟨spaces, false⟩, c)

/-- A plain scalar, the place behind it, and whether a key may follow there, which is so behind a line
break. -/
structure PlainScalar where
  text : List Char
  behind : Cursor
  keyAllowed : Bool

/-- Reads a plain scalar from the next word on, `gap` standing in front of it. -/
def plainFrom (inFlow : Bool) (indent : Nat) :
    (fuel : Nat) → (read : List Char) → (gap : List Char) → Cursor → (keyAllowed : Bool) → PlainScalar
  | 0, read, _, c, keyAllowed => ⟨read.reverse, c, keyAllowed⟩
  | fuel + 1, read, gap, c, keyAllowed =>
    let word := if c.next? == some '#' then [] else plainWord inFlow c.rest
    if word.isEmpty then ⟨read.reverse, c, keyAllowed⟩
    else
      let read := word.reverse ++ gap.reverse ++ read
      let (gap, c) := plainGap (c.skip word.length)
      if gap.text.isEmpty || c.next? == some '#' || (!inFlow && c.column < indent) then
        ⟨read.reverse, c, gap.broken⟩
      else plainFrom inFlow indent fuel read gap.text c gap.broken

/-- Reads a plain scalar whose further lines stand at column `indent` at least. -/
def plainScalar (inFlow : Bool) (indent : Nat) (c : Cursor) : PlainScalar :=
  plainFrom inFlow indent (c.rest.length + 1) [] [] c false

/-! ## Quoted scalars -/

/-- The character that a backslash and a letter stand for. -/
def escape? : Char → Option Char
  | '0' => some (Char.ofNat 0)
  | 'a' => some (Char.ofNat 7)
  | 'b' => some (Char.ofNat 8)
  | 't' | '\t' => some '\t'
  | 'n' => some '\n'
  | 'v' => some (Char.ofNat 0xB)
  | 'f' => some (Char.ofNat 0xC)
  | 'r' => some '\r'
  | 'e' => some (Char.ofNat 0x1B)
  | ' ' => some ' '
  | '"' => some '"'
  | '\\' => some '\\'
  | '/' => some '/'
  | 'N' => some (Char.ofNat 0x85)
  | '_' => some (Char.ofNat 0xA0)
  | 'L' => some (Char.ofNat 0x2028)
  | 'P' => some (Char.ofNat 0x2029)
  | _ => none

/-- The number of hexadecimal digits behind a backslash and a letter. -/
def escapeWidth? : Char → Option Nat
  | 'x' => some 2
  | 'u' => some 4
  | 'U' => some 8
  | _ => none

/-- The number that hexadecimal digits stand for, if there are `width` of them. -/
def hexNumber? : (width : Nat) → (value : Nat) → List Char → Option Nat
  | 0, value, _ => some value
  | width + 1, value, c :: cs =>
    (Json.hexValue? c).bind fun d => hexNumber? width (value * 16 + d) cs
  | _ + 1, _, [] => none

/-- Reads line breaks and blanks inside a quoted scalar, in front of the next line. -/
def quotedBreaks : (fuel : Nat) → (breaks : List Char) → Cursor → Except Fault TextSoFar
  | 0, _, _ => .error .malformed
  | fuel + 1, breaks, c =>
    if c.atSeparator then .error .malformed
    else
      let c := c.skipRun fun ch => ch == ' ' || ch == '\t'
      if c.atBreak then
        let (b, c) := c.lineBreak
        quotedBreaks fuel (breaks ++ b) c
      else .ok (breaks, c)

/-- Reads an escape behind its backslash. -/
def escaped (read : List Char) (c : Cursor) : Except Fault TextSoFar :=
  match c.next? with
  | none => .error .malformed
  | some ch =>
    match escape? ch with
    | some d => .ok (d :: read, c.step)
    | none =>
      match escapeWidth? ch with
      | some width =>
        match hexNumber? width 0 c.step.rest with
        | some n =>
          if 0x110000 ≤ n then .error (.unreadable .code)
          else .ok (Json.charOf n :: read, c.skip (width + 1))
        | none => .error .malformed
      | none =>
        if isBreak ch then do
          let (_, c) := c.lineBreak
          let (breaks, c) ← quotedBreaks (c.rest.length + 1) [] c
          return (breaks.reverse ++ read, c)
        else .error .malformed

/-- Reads a word of a quoted scalar, up to a blank or the closing quote. -/
def quotedWord (double : Bool) : (fuel : Nat) → (read : List Char) → Cursor → Except Fault TextSoFar
  | 0, _, _ => .error .malformed
  | fuel + 1, read, c =>
    match c.rest with
    | [] => .ok (read, c)
    | ch :: rest =>
      if isBlank ch then .ok (read, c)
      else if double && ch == '\\' then do
        let (read, c) ← escaped read c.step
        quotedWord double fuel read c
      else if !double && ch == '\'' && rest.head? == some '\'' then
        quotedWord double fuel (ch :: read) (c.skip 2)
      else if ch == (if double then '"' else '\'') then .ok (read, c)
      else quotedWord double fuel (ch :: read) c.step

/-- Reads the blanks inside a quoted scalar. -/
def quotedGap (read : List Char) (c : Cursor) : Except Fault TextSoFar :=
  let spaces := c.run fun ch => ch == ' ' || ch == '\t'
  let c := c.skip spaces.length
  if c.rest.isEmpty then .error .malformed
  else if c.atBreak then do
    let (first, c) := c.lineBreak
    let (breaks, c) ← quotedBreaks (c.rest.length + 1) [] c
    return ((foldedBreaks first breaks).reverse ++ read, c)
  else .ok (spaces.reverse ++ read, c)

/-- Reads a quoted scalar up to its closing quote. -/
def quotedFrom (double : Bool) : (fuel : Nat) → (read : List Char) → Cursor → Except Fault TextSoFar
  | 0, _, _ => .error .malformed
  | fuel + 1, read, c => do
    let (read, c) ← quotedWord double (c.rest.length + 1) read c
    if c.next? == some (if double then '"' else '\'') then return (read, c.step)
    else
      let (read, c) ← quotedGap read c
      quotedFrom double fuel read c

/-- Reads a quoted scalar that begins with its opening quote. -/
def quotedScalar (double : Bool) (c : Cursor) : Except Fault TextSoFar := do
  let (read, c) ← quotedFrom double (c.rest.length + 1) [] c.step
  return (read.reverse, c)

/-! ## Blocks -/

/-- What is done with the line breaks at the end of a block. -/
inductive Chomping where
  | strip
  | clip
  | keep
  deriving DecidableEq

/-- The sign for what is done with the line breaks at the end. -/
def chomping? (c : Cursor) : Option (Chomping × Cursor) :=
  match c.next? with
  | some '+' => some (.keep, c.step)
  | some '-' => some (.strip, c.step)
  | _ => none

/-- The digit that tells how far a block is indented. -/
def indentDigit? (c : Cursor) : Option (Nat × Cursor) :=
  match c.next? with
  | some ch => if ch.isDigit then some (ch.toNat - 48, c.step) else none
  | none => none

/-- The head of a block. -/
structure BlockHead where
  chomping : Chomping := .clip
  /-- How far the block is indented, if the head tells. -/
  indent : Option Nat := none

/-- Reads the head of a block in either order of its signs. -/
def blockHead (c : Cursor) : BlockHead × Cursor :=
  match chomping? c with
  | some (chomping, c) =>
    match indentDigit? c with
    | some (n, c) => (⟨chomping, some n⟩, c)
    | none => (⟨chomping, none⟩, c)
  | none =>
    match indentDigit? c with
    | some (n, c) =>
      match chomping? c with
      | some (chomping, c) => (⟨chomping, some n⟩, c)
      | none => (⟨.clip, some n⟩, c)
    | none => (⟨.clip, none⟩, c)

/-- Reads the empty lines at the beginning of a block, and finds out how far it is indented. -/
def blockIndent : (fuel : Nat) → (breaks : List Char) → (widest : Nat) → Cursor →
    List Char × Nat × Cursor
  | 0, breaks, widest, c => (breaks, widest, c)
  | fuel + 1, breaks, widest, c =>
    if c.next? == some ' ' then blockIndent fuel breaks (max widest c.step.column) c.step
    else if c.atBreak then
      let (b, c) := c.lineBreak
      blockIndent fuel (breaks ++ b) widest c
    else (breaks, widest, c)

/-- Reads empty lines of a block, and the indentation of the next line. -/
def blockBreaks (indent : Nat) : (fuel : Nat) → (breaks : List Char) → Cursor → List Char × Cursor
  | 0, breaks, c => (breaks, c)
  | fuel + 1, breaks, c =>
    let c := c.skipIndent indent
    if c.atBreak then
      let (b, c) := c.lineBreak
      blockBreaks indent fuel (breaks ++ b) c
    else (breaks, c)

/-- Does the cursor stand before a space or a tabulator? -/
def atSpace (c : Cursor) : Bool := c.next? == some ' ' || c.next? == some '\t'

/-- Reads the lines of a block; `breaks` stand in front of the next line. -/
def blockLines (folded : Bool) (head : BlockHead) (indent : Nat) :
    (fuel : Nat) → (read lineBreak breaks : List Char) → Cursor → TextSoFar
  | 0, read, _, _, c => (read, c)
  | fuel + 1, read, lineBreak, breaks, c =>
    let chomp (read lineBreak breaks : List Char) : List Char :=
      match head.chomping with
      | .strip => read
      | .clip => lineBreak ++ read
      | .keep => breaks.reverse ++ lineBreak ++ read
    if c.column = indent && !c.rest.isEmpty then
      let read := breaks.reverse ++ read
      let indented := atSpace c
      let line := c.run (!isBreak ·)
      let read := line.reverse ++ read
      let (lineBreak, c) := (c.skip line.length).lineBreak
      let (breaks, c) := blockBreaks indent (c.rest.length + 1) [] c
      if c.column = indent && !c.rest.isEmpty then
        if folded && lineBreak == ['\n'] && !indented && !atSpace c then
          blockLines folded head indent fuel (if breaks.isEmpty then ' ' :: read else read) lineBreak
            breaks c
        else blockLines folded head indent fuel (lineBreak ++ read) lineBreak breaks c
      else (chomp read lineBreak breaks, c)
    else (chomp read lineBreak breaks, c)

/-- Reads a block behind its indicator; the collection around it stands at column `outer`. -/
def blockScalar (folded : Bool) (outer : Int) (c : Cursor) : Except Fault TextSoFar :=
  let (head, c) := blockHead c.step
  if head.indent == some 0 || !c.atGap then .error .malformed
  else
    let c := c.skipSpaces.skipComment
    if !c.atLineEnd then .error .malformed
    else
      let (_, c) := c.lineBreak
      let least := (max (outer + 1) 1).toNat
      let (indent, breaks, c) :=
        match head.indent with
        | some n =>
          let indent := least + n - 1
          let (breaks, c) := blockBreaks indent (c.rest.length + 1) [] c
          (indent, breaks, c)
        | none =>
          let (breaks, widest, c) := blockIndent (c.rest.length + 1) [] 0 c
          (max least widest, breaks, c)
      let (read, c) := blockLines folded head indent (c.rest.length + 1) [] [] breaks c
      .ok (read.reverse, c)

end Conformity.Yaml

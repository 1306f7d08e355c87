import Conformity.Yaml.Token.Directive
import Conformity.Yaml.Token.Scalar

/-!
# The tokens of a YAML stream

A stream is read from token to token. Whether something is the key of a mapping shows only at the
colon behind it, so the place of a possible key is kept waiting, one for each level of flow
collections; at the colon the key is marked at that place. A key has to lie on one line, within 1024
characters. Outside flow collections the columns of entries open and close block collections.
-/

namespace Conformity.Yaml

/-- A place where a key may turn out to begin. -/
structure Waiting where
  /-- The number of tokens in front of the place. -/
  token : Nat
  /-- Can nothing but a key stand at the place? -/
  required : Bool
  index : Nat
  line : Nat
  column : Nat

/-- Is a waiting place out of reach? -/
def Waiting.isStale (c : Cursor) (w : Waiting) : Bool :=
  w.line != c.line || 1024 < c.index - w.index

/-- A stream that is read up to a cursor. -/
structure Scan where
  cursor : Cursor
  /-- The tokens so far, last one first. -/
  tokens : List Token := []
  count : Nat := 0
  /-- The column of the innermost block collection, and those of the ones around it. -/
  indent : Int := -1
  indents : List Int := []
  /-- May a key begin here? -/
  keyAllowed : Bool := true
  /-- The waiting places, on this level and on those around it. -/
  waiting : Option Waiting := none
  outer : List (Option Waiting) := []

namespace Scan

/-- Is the cursor inside a flow collection? -/
def inFlow (s : Scan) : Bool := !s.outer.isEmpty

/-- Adds a token. -/
def push (t : Token) (s : Scan) : Scan := { s with tokens := t :: s.tokens, count := s.count + 1 }

/-- Inserts a token behind the first `place` ones. -/
def insert (place : Nat) (t : Token) (s : Scan) : Scan :=
  let later := s.count - place
  { s with tokens := s.tokens.take later ++ t :: s.tokens.drop later, count := s.count + 1 }

/-- Moves the cursor by `n` characters. -/
def skip (n : Nat) (s : Scan) : Scan := { s with cursor := s.cursor.skip n }

/-- Gives up waiting on this level. -/
def dropWaiting (s : Scan) : Except Fault Scan :=
  if s.waiting.any (·.required) then .error .malformed else .ok { s with waiting := none }

/-- Gives up the waiting places that are out of reach. -/
def dropStale (s : Scan) : Except Fault Scan :=
  if (s.waiting :: s.outer).any fun w => w.any fun w => w.required && w.isStale s.cursor then
    .error .malformed
  else
    let reachable (w : Option Waiting) := w.filter fun w => !w.isStale s.cursor
    .ok { s with waiting := reachable s.waiting, outer := s.outer.map reachable }

/-- Lets the cursor's place wait for its colon, if a key may begin here. -/
def awaitColon (s : Scan) : Except Fault Scan :=
  if s.keyAllowed then do
    let s ← s.dropWaiting
    let c := s.cursor
    let required := !s.inFlow && s.indent == c.column
    return { s with waiting := some ⟨s.count, required, c.index, c.line, c.column⟩ }
  else .ok s

/-- The columns that stay when everything beyond a column is closed, and how many were closed. -/
def closeBeyond (column : Int) : (indent : Int) → (indents : List Int) → Int × List Int × Nat
  | indent, [] => (indent, [], 0)
  | indent, outer :: indents =>
    if column < indent then
      let (indent, indents, n) := closeBeyond column outer indents
      (indent, indents, n + 1)
    else (indent, outer :: indents, 0)

/-- Closes the block collections beyond a column. -/
def unwind (column : Int) (s : Scan) : Scan :=
  if s.inFlow then s
  else
    let (indent, indents, n) := closeBeyond column s.indent s.indents
    { s with
      indent, indents
      tokens := List.replicate n .blockEnd ++ s.tokens
      count := s.count + n }

/-- Opens a block collection at a column if it lies beyond the present one. -/
def openAt (column : Nat) (place : Nat) (t : Token) (s : Scan) : Scan :=
  if !s.inFlow && s.indent < column then
    { s.insert place t with indent := column, indents := s.indent :: s.indents }
  else s

/-- Moves the cursor behind blanks, comments and line breaks; behind a line break a key may begin. -/
def skipGap : (fuel : Nat) → Scan → Scan
  | 0, s => s
  | fuel + 1, s =>
    let c := s.cursor.skipSpaces.skipComment
    if c.atBreak then
      skipGap fuel { s with cursor := c.lineBreak.2, keyAllowed := s.keyAllowed || !s.inFlow }
    else { s with cursor := c }

/-- The mark that begins a document or ends one. -/
def separator (t : Token) (s : Scan) : Except Fault Scan := do
  let s ← (s.unwind (-1)).dropWaiting
  return ({ s with keyAllowed := false }.skip 3).push t

/-- The bracket that opens a flow collection. -/
def openFlow (t : Token) (s : Scan) : Except Fault Scan := do
  let s ← s.awaitColon
  return ({ s with waiting := none, outer := s.waiting :: s.outer, keyAllowed := true }.skip 1).push t

/-- The bracket that closes a flow collection. -/
def closeFlow (t : Token) (s : Scan) : Except Fault Scan := do
  let s ← s.dropWaiting
  match s.outer with
  | [] => .error .malformed
  | w :: outer => return ({ s with waiting := w, outer, keyAllowed := false }.skip 1).push t

/-- The comma of a flow collection. -/
def flowEntry (s : Scan) : Except Fault Scan := do
  let s ← { s with keyAllowed := true }.dropWaiting
  return (s.skip 1).push .flowEntry

/-- The hyphen in front of an entry. -/
def blockEntry (s : Scan) : Except Fault Scan := do
  if !s.inFlow && !s.keyAllowed then .error .malformed
  else
    let s := s.openAt s.cursor.column s.count .blockSequenceStart
    let s ← { s with keyAllowed := true }.dropWaiting
    return (s.skip 1).push .blockEntry

/-- The question mark in front of a key. -/
def key (s : Scan) : Except Fault Scan := do
  if !s.inFlow && !s.keyAllowed then .error .malformed
  else
    let s := s.openAt s.cursor.column s.count .blockMappingStart
    let s ← { s with keyAllowed := !s.inFlow }.dropWaiting
    return (s.skip 1).push .key

/-- The colon behind a key. -/
def value (s : Scan) : Except Fault Scan := do
  match s.waiting with
  | some w =>
    let s := { s with waiting := none, keyAllowed := false }.insert w.token .key
    return ((s.openAt w.column w.token .blockMappingStart).skip 1).push .value
  | none =>
    if !s.inFlow && !s.keyAllowed then .error .malformed
    else
      let s := s.openAt s.cursor.column s.count .blockMappingStart
      return ({ s with keyAllowed := !s.inFlow }.skip 1).push .value

/-- Something that may be a key, read by `read`. -/
def keyLike (read : Cursor → Except Fault (Token × Cursor)) (s : Scan) : Except Fault Scan := do
  let s ← s.awaitColon
  let (t, c) ← read s.cursor
  return { s with keyAllowed := false, cursor := c }.push t

/-- A plain scalar. -/
def plain (s : Scan) : Except Fault Scan := do
  let s ← s.awaitColon
  let p := plainScalar s.inFlow (s.indent + 1).toNat s.cursor
  return { s with keyAllowed := p.keyAllowed, cursor := p.behind }.push
    (.scalar (String.ofList p.text) true)

/-- A block. -/
def block (folded : Bool) (s : Scan) : Except Fault Scan := do
  let s ← { s with keyAllowed := true }.dropWaiting
  let (text, c) ← blockScalar folded s.indent s.cursor
  return { s with cursor := c }.push (.scalar (String.ofList text) false)

/-- May a plain scalar begin here? -/
def atPlain (s : Scan) : Bool :=
  match s.cursor.next? with
  | none => false
  | some c =>
    !(isBlank c || "-?:,[]\x7b\x7d#&*!|>'\"%@\x60".toList.contains c) ||
      (!s.cursor.step.atBlank && (c == '-' || (!s.inFlow && (c == '?' || c == ':'))))

/-- Reads the token that begins with a character at the cursor. -/
def next (ch : Char) (s : Scan) : Except Fault Scan :=
  let c := s.cursor
  let blankBehind := c.step.atBlank
  let first := c.column = 0
  if first && ch == '%' then do
    let s ← (s.unwind (-1)).dropWaiting
    let (d, c) ← directive s.cursor
    return { s with keyAllowed := false, cursor := c }.push (.directive d)
  else if first && ch == '-' && c.atSeparator then s.separator .documentStart
  else if first && ch == '.' && c.atSeparator then s.separator .documentEnd
  else if ch == '[' then s.openFlow .flowSequenceStart
  else if ch == '{' then s.openFlow .flowMappingStart
  else if ch == ']' then s.closeFlow .flowSequenceEnd
  else if ch == '}' then s.closeFlow .flowMappingEnd
  else if ch == ',' then s.flowEntry
  else if ch == '-' && blankBehind then s.blockEntry
  else if ch == '?' && (s.inFlow || blankBehind) then s.key
  else if ch == ':' && (s.inFlow || blankBehind) then s.value
  else if ch == '*' then s.keyLike fun c => do
    let (name, c) ← anchorName c
    return (.alias name, c)
  else if ch == '&' then s.keyLike fun c => do
    let (name, c) ← anchorName c
    return (.anchor name, c)
  else if ch == '!' then s.keyLike fun c => do
    let (t, c) ← writtenTag c
    return (.tag t, c)
  else if (ch == '|' || ch == '>') && !s.inFlow then s.block (ch == '>')
  else if ch == '\'' || ch == '"' then s.keyLike fun c => do
    let (text, c) ← quotedScalar (ch == '"') c
    return (.scalar (String.ofList text) false, c)
  else if s.atPlain then s.plain
  else .error .malformed

/-- Reads tokens to the end of the stream or to a fault. -/
def all : (fuel : Nat) → Scan → List Token
  | 0, s => (.wrong .malformed :: s.tokens).reverse
  | fuel + 1, s =>
    let s := s.skipGap (s.cursor.rest.length + 1)
    match s.dropStale with
    | .error e => (.wrong e :: s.tokens).reverse
    | .ok s =>
      let s := s.unwind s.cursor.column
      match s.cursor.next? with
      | none =>
        let s := s.unwind (-1)
        match s.dropWaiting with
        | .ok s => s.tokens.reverse
        | .error e => (.wrong e :: s.tokens).reverse
      | some ch =>
        match s.next ch with
        | .ok s => all fuel s
        | .error e => (.wrong e :: s.tokens).reverse

end Scan

/-- The tokens of a stream. -/
def Token.ofChars (cs : List Char) : List Token :=
  let c : Cursor := ⟨cs, 0, 0, 0⟩
  let c := if c.next? == some byteOrderMark then c.step else c
  Scan.all (cs.length + 1) { cursor := c }

end Conformity.Yaml

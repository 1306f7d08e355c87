import Conformity.Data.Json
import Conformity.Yaml.Character
import Conformity.Yaml.Token

/-!
# YAML directives, anchors and tags

The parts of a stream that name something: a directive stands on a line of its own, an anchor names
the node behind it, an alias repeats a named node, and a tag names the kind of the node behind it. A
tag is written whole between angle brackets, or with a handle that a directive explains.
-/

namespace Conformity.Yaml

/-- A character that a tag is written with. -/
def isTagChar (c : Char) : Bool := c.isAlphanum || "-;/?:@&=+$,_.!~*'()[]%".toList.contains c

/-- Reads bytes written as percent signs with two hexadecimal digits each. -/
def percentBytes : (fuel : Nat) → (read : Bytes) → Cursor → Except Fault (Bytes × Cursor)
  | 0, _, _ => .error .malformed
  | fuel + 1, read, c =>
    match c.rest with
    | '%' :: a :: b :: _ =>
      match Json.hexValue? a, Json.hexValue? b with
      | some m, some n => percentBytes fuel ((m * 16 + n).toUInt8 :: read) (c.skip 3)
      | _, _ => .error .malformed
    | '%' :: _ => .error .malformed
    | _ => .ok (read.reverse, c)

/-- Reads the characters of a tag, `read` having those before, last one first. -/
def tagCharsFrom : (fuel : Nat) → (read : List Char) → Cursor → Except Fault (List Char × Cursor)
  | 0, _, _ => .error .malformed
  | fuel + 1, read, c =>
    match c.next? with
    | none => .ok (read.reverse, c)
    | some ch =>
      if ch == '%' then do
        let (bs, c) ← percentBytes (c.rest.length + 1) [] c
        match Text.decode? bs with
        | some cs => tagCharsFrom fuel (cs.reverse ++ read) c
        | none => .error .malformed
      else if isTagChar ch then tagCharsFrom fuel (ch :: read) c.step
      else .ok (read.reverse, c)

/-- Reads the characters of a tag, of which there is one at least. -/
def tagChars (c : Cursor) : Except Fault (String × Cursor) := do
  let (cs, c) ← tagCharsFrom (c.rest.length + 1) [] c
  if cs.isEmpty then .error .malformed else return (String.ofList cs, c)

/-- Reads the handle of a tag: an exclamation mark, or a word between two of them. -/
def tagHandle (c : Cursor) : Except Fault (String × Cursor) :=
  match c.rest with
  | '!' :: rest =>
    if rest.head? == some ' ' then .ok ("!", c.step)
    else
      let word := rest.takeWhile isWordChar
      if (rest.drop word.length).head? == some '!' then
        .ok (String.ofList ('!' :: word ++ ['!']), c.skip (word.length + 2))
      else .error .malformed
  | _ => .error .malformed

/-- Reads a tag. -/
def writtenTag (c : Cursor) : Except Fault (WrittenTag × Cursor) := do
  let behind := c.step
  let (tag, c) ←
    if behind.next? == some '<' then
      let (name, c) ← tagChars behind.step
      if c.next? == some '>' then pure (.whole name, c.step) else .error .malformed
    else if behind.atBlank then pure (.whole "!", behind)
    else
      let ahead := behind.run fun ch => !(ch == ' ' || isBreak ch)
      let (handle, c) ← if ahead.contains '!' then tagHandle c else pure ("!", behind)
      let (suffix, c) ← tagChars c
      pure (.short handle suffix, c)
  if c.atGap then return (tag, c) else .error .malformed

/-- Reads the name behind the sign of an anchor or an alias. -/
def anchorName (c : Cursor) : Except Fault (String × Cursor) :=
  let c := c.step
  let name := c.run isWordChar
  let c := c.skip name.length
  if name.isEmpty || !c.endsOr (fun ch => isBlank ch || "?:,]\x7d%@\x60".toList.contains ch) then
    .error .malformed
  else .ok (String.ofList name, c)

/-- Reads a whole number of a directive. -/
def directiveNumber (c : Cursor) : Except Fault (Nat × Cursor) :=
  let digits := c.run Char.isDigit
  if digits.isEmpty then .error .malformed else .ok (Json.natOf digits, c.skip digits.length)

/-- Reads what a directive says behind its name. -/
def directiveValue (name : String) (c : Cursor) : Except Fault (Directive × Cursor) :=
  if name == "YAML" then do
    let (major, c) ← directiveNumber c.skipSpaces
    if c.next? != some '.' then .error .malformed
    else
      let (minor, c) ← directiveNumber c.step
      if c.atGap then return (.version major minor, c) else .error .malformed
  else if name == "TAG" then do
    let (handle, c) ← tagHandle c.skipSpaces
    if c.next? != some ' ' then .error .malformed
    else
      let (replacement, c) ← tagChars c.skipSpaces
      if c.atGap then return (.handle handle replacement, c) else .error .malformed
  else .ok (.other name, c.skipRun (!isBreak ·))

/-- Reads a line with a directive. -/
def directive (c : Cursor) : Except Fault (Directive × Cursor) :=
  let c := c.step
  let name := c.run isWordChar
  let c := c.skip name.length
  if name.isEmpty || !c.atGap then .error .malformed
  else do
    let (d, c) ← directiveValue (String.ofList name) c
    let c := c.skipSpaces.skipComment
    if c.atLineEnd then return (d, c.lineBreak.2) else .error .malformed

end Conformity.Yaml

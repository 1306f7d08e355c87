import Conformity.Yaml.Kind
import Conformity.Yaml.Token

/-!
# YAML nodes

The tokens of a stream form one tree of nodes. A node may be named by an anchor; an alias stands for
the whole node with that name, which keeps its label, or, inside the node itself, for a knot. Where a
node is left out an empty scalar stands for it.
-/

namespace Conformity.Yaml

/-- A node of a document. Every node has a label of its own; all occurrences of a node have it. -/
inductive Node where
  | scalar (label : Nat) (kind : Kind) (text : String)
  | sequence (label : Nat) (kind : Kind) (items : List Node)
  | mapping (label : Nat) (kind : Kind) (entries : List (Node × Node))
  /-- The node with this label, which encloses the knot; is it a mapping? -/
  | knot (label : Nat) (mapping : Bool)

namespace Node

/-- What remains to be read, and what is known so far. -/
structure Reading where
  tokens : List Token
  /-- The next label. -/
  label : Nat := 1
  /-- The nodes with names. -/
  anchors : List (String × Node) := []
  /-- What the handles of tags stand for. -/
  handles : List (String × String) := []

/-- A step of reading. -/
abbrev Read (α : Type) := StateT Reading (Except Fault) α

/-- Gives up: the tokens form no tree. A fault at which the stream breaks off goes first. -/
def wrong {α : Type} : Read α := fun r =>
  match r.tokens with
  | .wrong e :: _ => .error e
  | _ => .error .malformed

/-- The next token. -/
def peek? : Read (Option Token) := do return (← get).tokens.head?

/-- Passes over the next token. -/
def advance : Read Unit := modify fun r => { r with tokens := r.tokens.drop 1 }

/-- Passes over the next token if it is `t`. -/
def passes (t : Token) : Read Bool := do
  if (← peek?) == some t then
    advance
    return true
  else return false

/-- Passes over the next token, which has to be `t`. -/
def expect (t : Token) : Read Unit := do
  if ← passes t then return () else wrong

/-- Is the next token one of these? -/
def isNext (ts : List Token) : Read Bool := do return (← peek?).any ts.contains

/-- A label that no node has yet. -/
def freshLabel : Read Nat := do
  let r ← get
  set { r with label := r.label + 1 }
  return r.label

/-- The scalar where a node is left out. -/
def absent : Read Node := do return .scalar (← freshLabel) .null ""

/-- What stands in front of a node. -/
structure Properties where
  anchor : Option String := none
  tag : Option WrittenTag := none

/-- Reads an anchor and a tag in front of a node, in either order. -/
def properties : Read Properties := do
  match (← get).tokens with
  | .anchor a :: .tag t :: rest =>
    modify fun r => { r with tokens := rest }
    return ⟨some a, some t⟩
  | .tag t :: .anchor a :: rest =>
    modify fun r => { r with tokens := rest }
    return ⟨some a, some t⟩
  | .anchor a :: rest =>
    modify fun r => { r with tokens := rest }
    return ⟨some a, none⟩
  | .tag t :: rest =>
    modify fun r => { r with tokens := rest }
    return ⟨none, some t⟩
  | _ => return {}

/-- The whole name of a tag. -/
def tagName : WrittenTag → Read String
  | .whole name => return name
  | .short handle suffix => do
    match (← get).handles.lookup handle with
    | some start => return start ++ suffix
    | none => wrong

/-- The kind of a node with a tag, or, where the tag leaves it open, without. -/
def kindOf (tag : Option String) (untagged : Kind) : Kind :=
  match tag with
  | none => untagged
  | some t => if t == "!" then untagged else Kind.ofTag t

/-- Gives a node its name. No two nodes have one name. -/
def nameNode (anchor : Option String) (n : Node) : Read Unit := do
  match anchor with
  | none => return ()
  | some a => modify fun r => { r with anchors := (a, n) :: r.anchors }

/-- Refuses a name that a node has already. -/
def checkAnchor (anchor : Option String) : Read Unit := do
  let r ← get
  if anchor.any fun a => (r.anchors.lookup a).isSome then wrong else return ()

/-- Where a node stands. -/
inductive Position where
  | inFlow
  | inBlock
  /-- Behind a key or a colon outside flow collections, where the entries of a sequence need no
  indentation of their own. -/
  | entry
  deriving DecidableEq

/-- The kind of a scalar without a tag. A tag that leaves the kind open makes every scalar plain. -/
def scalarKind (tag : Option String) (text : String) (plain : Bool) : Kind :=
  kindOf tag (if plain || tag.isSome then Kind.ofPlain text else .text)

/-- Reads a collection. While it is read its name stands for a knot. -/
def collection (anchor : Option String) (mapping : Bool) (read : (label : Nat) → Read Node) :
    Read Node := do
  checkAnchor anchor
  let label ← freshLabel
  nameNode anchor (.knot label mapping)
  let n ← read label
  nameNode anchor n
  return n

/-- The empty scalar behind an anchor or a tag. -/
def bare (p : Properties) (tag : Option String) : Read Node := do
  if p.anchor.isNone && p.tag.isNone then wrong
  else
    checkAnchor p.anchor
    let n := .scalar (← freshLabel) (scalarKind tag "" true) ""
    nameNode p.anchor n
    return n

mutual

/-- Reads a node. -/
def node : (fuel : Nat) → Position → Read Node
  | 0, _ => wrong
  | fuel + 1, position => do
    match ← peek? with
    | some (.alias name) =>
      match (← get).anchors.lookup name with
      | some n =>
        advance
        return n
      | none => wrong
    | _ =>
      let p ← properties
      let tag ← p.tag.mapM tagName
      match ← peek? with
      | some (.scalar text plain) =>
        checkAnchor p.anchor
        advance
        let n := .scalar (← freshLabel) (scalarKind tag text plain) text
        nameNode p.anchor n
        return n
      | some .flowSequenceStart =>
        advance
        collection p.anchor false fun label =>
          return .sequence label (kindOf tag .list) (← flowItems fuel true)
      | some .flowMappingStart =>
        advance
        collection p.anchor true fun label =>
          return .mapping label (kindOf tag .map) (← flowEntries fuel true)
      | some .blockSequenceStart =>
        if position = .inFlow then wrong
        else
          advance
          collection p.anchor false fun label =>
            return .sequence label (kindOf tag .list) (← blockItems fuel)
      | some .blockMappingStart =>
        if position = .inFlow then wrong
        else
          advance
          collection p.anchor true fun label =>
            return .mapping label (kindOf tag .map) (← blockEntries fuel)
      | some .blockEntry =>
        if position = .entry then
          collection p.anchor false fun label =>
            return .sequence label (kindOf tag .list) (← plainItems fuel)
        else bare p tag
      | _ => bare p tag

/-- Reads a node, or the empty scalar if one of `ends` follows instead. -/
def nodeUnless : (fuel : Nat) → Position → (ends : List Token) → Read Node
  | 0, _, _ => wrong
  | fuel + 1, position, ends => do
    if ← isNext ends then absent else node fuel position

/-- Reads the entry of a mapping behind the mark of its key; it ends before one of `ends`. -/
def entry : (fuel : Nat) → Position → (ends : List Token) → Read (Node × Node)
  | 0, _, _ => wrong
  | fuel + 1, position, ends => do
    let k ← nodeUnless fuel position (.value :: ends)
    let v ← if ← passes .value then nodeUnless fuel position ends else absent
    return (k, v)

/-- Reads the items of a flow sequence; is the next one the first? -/
def flowItems : (fuel : Nat) → (first : Bool) → Read (List Node)
  | 0, _ => wrong
  | fuel + 1, first => do
    if ← passes .flowSequenceEnd then return []
    else
      if !first then expect .flowEntry
      if ← passes .key then
        let label ← freshLabel
        let e ← entry fuel .inFlow [.flowEntry, .flowSequenceEnd]
        return .mapping label .map [e] :: (← flowItems fuel false)
      else if ← passes .flowSequenceEnd then return []
      else
        let item ← node fuel .inFlow
        return item :: (← flowItems fuel false)

/-- Reads the entries of a flow mapping; is the next one the first? -/
def flowEntries : (fuel : Nat) → (first : Bool) → Read (List (Node × Node))
  | 0, _ => wrong
  | fuel + 1, first => do
    if ← passes .flowMappingEnd then return []
    else
      if !first then expect .flowEntry
      if ← passes .key then
        let e ← entry fuel .inFlow [.flowEntry, .flowMappingEnd]
        return e :: (← flowEntries fuel false)
      else if ← passes .flowMappingEnd then return []
      else
        let k ← node fuel .inFlow
        let v ← absent
        return (k, v) :: (← flowEntries fuel false)

/-- Reads the items of a block sequence. -/
def blockItems : (fuel : Nat) → Read (List Node)
  | 0 => wrong
  | fuel + 1 => do
    if ← passes .blockEntry then
      let item ← nodeUnless fuel .inBlock [.blockEntry, .blockEnd]
      return item :: (← blockItems fuel)
    else
      expect .blockEnd
      return []

/-- Reads the items of a block sequence without indentation of its own. -/
def plainItems : (fuel : Nat) → Read (List Node)
  | 0 => wrong
  | fuel + 1 => do
    if ← passes .blockEntry then
      let item ← nodeUnless fuel .inBlock [.blockEntry, .key, .value, .blockEnd]
      return item :: (← plainItems fuel)
    else return []

/-- Reads the entries of a block mapping. -/
def blockEntries : (fuel : Nat) → Read (List (Node × Node))
  | 0 => wrong
  | fuel + 1 => do
    if ← passes .key then
      let e ← entry fuel .entry [.key, .value, .blockEnd]
      return e :: (← blockEntries fuel)
    else
      expect .blockEnd
      return []

end

/-! ## Documents -/

/-- Reads the directives of a document; is the version told already? -/
def directives : (fuel : Nat) → (versioned : Bool) → Read Unit
  | 0, _ => wrong
  | fuel + 1, versioned => do
    match ← peek? with
    | some (.directive d) =>
      advance
      match d with
      | .version major _ => if versioned || major != 1 then wrong else directives fuel true
      | .handle name replacement =>
        if ((← get).handles.lookup name).isSome then wrong
        else
          modify fun r => { r with handles := (name, replacement) :: r.handles }
          directives fuel versioned
      | .other _ => directives fuel versioned
    | _ => return ()

/-- Passes over the marks that end a document. -/
def documentEnds : Read Unit :=
  modify fun r => { r with tokens := r.tokens.dropWhile (· == .documentEnd) }

/-- The handles that need no directive. -/
def commonHandles : List (String × String) := [("!", "!"), ("!!", Kind.tagStart)]

/-- Reads the only document of a stream. A stream may be empty. -/
def document (fuel : Nat) : Read (Option Node) := do
  let explain := modify fun r : Reading => { r with handles := r.handles ++ commonHandles }
  match ← peek? with
  | none => return none
  | some t =>
    let explicit :=
      match t with
      | .directive _ | .documentStart => true
      | _ => false
    let n ←
      if explicit then do
        directives fuel false
        explain
        expect .documentStart
        match ← peek? with
        | none | some .documentStart | some .documentEnd | some (.directive _) => absent
        | _ => node fuel .inBlock
      else do
        explain
        node fuel .inBlock
    documentEnds
    if (← get).tokens.isEmpty then return some n else wrong

/-- The tree that tokens form, if there is any. -/
def ofTokens (ts : List Token) : Except Fault (Option Node) :=
  (document (4 * ts.length + 4)).run' { tokens := ts }

end Node

end Conformity.Yaml

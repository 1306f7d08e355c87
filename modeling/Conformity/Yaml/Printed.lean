import Conformity.Data.Value
import Conformity.Text.Base64
import Conformity.Yaml.Page

/-!
# Writing YAML documents

A document is written in block style: entries and items stand on lines of their own, and the items of
a list under a key need no indentation of their own. A collection, day or moment that occurs several
times is written once behind an anchor, and mentioned by aliases afterwards. Anchors are numbered in
the order in which the second occurrences are met.
-/

namespace Conformity.Yaml

/-! ## Which nodes need an anchor -/

/-- The labels that were met, and those that were met again, last one first. -/
structure Met where
  once : List Nat := []
  again : List Nat := []

/-- Meets a label. Was it met for the first time? -/
def Met.add (label : Nat) (m : Met) : Bool × Met :=
  if label = 0 then (true, m)
  else if m.once.contains label then
    (false, if m.again.contains label then m else { m with again := label :: m.again })
  else (true, { m with once := label :: m.once })

/-- The label of a scalar that can be mentioned again. -/
def labelOf : Scalar → Nat
  | .day label _ | .moment label _ => label
  | _ => 0

/-- Meets a scalar. -/
def Met.scalar (m : Met) (s : Scalar) : Met := (m.add (labelOf s)).2

mutual

/-- Meets the nodes of a value in the order in which they are written. -/
def Met.node (m : Met) : Data → Met
  | .scalar s => m.scalar s
  | .list l xs =>
    match m.add l with
    | (true, m) => Met.nodes m xs
    | (false, m) => m
  | .map l es =>
    match m.add l with
    | (true, m) => Met.entries m es
    | (false, m) => m
  | .set l ms =>
    match m.add l with
    | (true, m) => ms.foldl Met.scalar m
    | (false, m) => m
  | .pair l a b =>
    match m.add l with
    | (true, m) => Met.node (Met.node m a) b
    | (false, m) => m
  | .knot l _ => (m.add l).2

/-- Meets the nodes of several values. -/
def Met.nodes (m : Met) : List Data → Met
  | [] => m
  | x :: xs => Met.nodes (Met.node m x) xs

/-- Meets the nodes of entries. -/
def Met.entries (m : Met) : List (Scalar × Data) → Met
  | [] => m
  | (k, x) :: es => Met.entries (Met.node (m.scalar k) x) es

end

/-- The labels that need an anchor, in the order of their numbers. -/
def anchored (d : Data) : List Nat := (Met.node {} d).again.reverse

/-! ## Writing nodes -/

/-- A page on which nodes are written. -/
structure Writer where
  page : Page := {}
  /-- The labels that need an anchor, in the order of their numbers. -/
  anchors : List Nat
  /-- The labels whose nodes are written already. -/
  done : List Nat := []

/-- Where a node is written. -/
inductive Place where
  | root
  | item
  | value
  deriving DecidableEq

/-- The text of a floating-point number, which always has a decimal point. -/
def floatText (x : Double) : String :=
  match x with
  | .nan => ".nan"
  | .infinity negative => if negative then "-.inf" else ".inf"
  | .finite .. =>
    let cs := x.text.toList
    if cs.contains '.' then String.ofList cs
    else
      String.ofList (cs.flatMap fun c => if c == 'e' then ['.', '0', 'e'] else [c])

/-- The lines of bytes in base 64. -/
def base64Lines : (fuel : Nat) → List Char → List (List Char)
  | 0, _ => []
  | fuel + 1, cs => if cs.isEmpty then [] else cs.take 76 :: base64Lines fuel (cs.drop 76)

/-- The plain text of a scalar that is neither text nor bytes. -/
def plainText : Scalar → String
  | .null => "null"
  | .bool b => if b then "true" else "false"
  | .float x => floatText x
  | s => s.plain

/-- The length of the tag of a scalar. -/
def tagLength : Scalar → Nat
  | .null | .bool _ => 6
  | .int _ | .text _ => 5
  | .float _ => 7
  | .bytes _ => 8
  | .day .. | .moment .. => 11

/-- Can a scalar stand in front of the colon on one line? -/
def isShortKey : Scalar → Bool
  | .text s => !s.isEmpty && !s.toList.any isWrittenBreak && s.length + tagLength (.text s) < 128
  | .bytes _ => false
  | s => (plainText s).length + tagLength s < 128

namespace Writer

/-- Changes the page. -/
def on (f : Page → Page) (w : Writer) : Writer := { w with page := f w.page }

/-- The number of an anchor. -/
def anchorName (label : Nat) (w : Writer) : String :=
  "id" ++ padded 3 (w.anchors.idxOf label + 1)

/-- Writes an alias in place of a node that is written already. -/
def mention (label : Nat) (w : Writer) : Writer := w.on (·.mark ("*" ++ w.anchorName label) true)

/-- Is the node with a label written already? -/
def knows (label : Nat) (w : Writer) : Bool := label != 0 && w.done.contains label

/-- Writes the anchor of a node that is going to be written, if it needs one. -/
def announce (label : Nat) (w : Writer) : Writer :=
  let w := { w with done := label :: w.done }
  if label != 0 && w.anchors.contains label then w.on (·.mark ("&" ++ w.anchorName label) true) else w

/-- The text of a scalar at an indentation, as a key in front of the colon or as anything else. -/
def scalar (indent : Nat) (asKey : Bool) (s : Scalar) (w : Writer) : Writer :=
  match s with
  | .text s => w.on (·.putText indent asKey s)
  | .bytes bs =>
    let cs := Base64.encode bs
    w.on fun p =>
      let p := p.mark "!!binary" true
      if cs.isEmpty then (p.mark "\"" true).mark "\"" false
      else p.putLines indent (base64Lines (cs.length + 1) cs)
  | s =>
    let label := labelOf s
    if w.knows label then w.mention label
    else (w.announce label).on (·.putPlain indent (!asKey) (plainText s).toList)

/-- The indentation of what stands one level inside. -/
def deeper (indent : Option Nat) : Nat := (indent.map (· + 2)).getD 0

/-- The indentation of further lines of a scalar. -/
def scalarIndent (indent : Option Nat) : Nat := indent.getD 0 + 2

/-- The indentation of the items of a list. -/
def listIndent (place : Place) (indent : Option Nat) (w : Writer) : Nat :=
  match indent with
  | none => 0
  | some n => if place = .value && !w.page.fresh then n else n + 2

/-- Writes the key of an entry and what goes between it and its value. -/
def key (indent : Nat) (k : Scalar) (w : Writer) : Writer :=
  let w := w.on (·.indentTo indent)
  if isShortKey k then (w.scalar (indent + 2) true k).on (·.mark ":" false)
  else
    ((w.on (·.markEntry "?")).scalar (indent + 2) false k).on fun p =>
      (p.indentTo indent).markEntry ":"

mutual

/-- Writes a node. -/
def node (place : Place) (indent : Option Nat) (w : Writer) : Data → Writer
  | .scalar s => w.scalar (scalarIndent indent) false s
  | .list l xs =>
    if w.knows l then w.mention l
    else
      let w := w.announce l
      if xs.isEmpty then w.on fun p => (p.mark "[" true).mark "]" false
      else items (w.listIndent place indent) w xs
  | .map l es =>
    if w.knows l then w.mention l
    else
      let w := w.announce l
      if es.isEmpty then w.on fun p => (p.mark "\x7b" true).mark "\x7d" false
      else entries (deeper indent) w es
  | .set l ms =>
    if w.knows l then w.mention l
    else
      let w := (w.announce l).on (·.mark "!!set" true)
      if ms.isEmpty then w.on fun p => (p.mark "\x7b" true).mark "\x7d" false
      else
        let n := deeper indent
        ms.foldl (fun w m => (w.key n m).scalar (n + 2) false .null) w
  | .pair l a b =>
    if w.knows l then w.mention l
    else
      let w := w.announce l
      let n := w.listIndent place indent
      let w := node .item (some n) (w.on fun p => (p.indentTo n).markEntry "-") a
      node .item (some n) (w.on fun p => (p.indentTo n).markEntry "-") b
  | .knot l _ => w.mention l

/-- Writes the items of a list at an indentation. -/
def items (indent : Nat) (w : Writer) : List Data → Writer
  | [] => w
  | x :: xs =>
    let w := w.on fun p => (p.indentTo indent).markEntry "-"
    items indent (node .item (some indent) w x) xs

/-- Writes the entries of a mapping at an indentation. -/
def entries (indent : Nat) (w : Writer) : List (Scalar × Data) → Writer
  | [] => w
  | (k, x) :: es => entries indent (node .value (some indent) (w.key indent k) x) es

end

end Writer

/-- A value as a document. -/
def print (d : Data) : List Char :=
  let w := Writer.node .root none { anchors := anchored d } d
  (w.page.indentTo 0).written.reverse

end Conformity.Yaml

import Conformity.Data.Value
import Conformity.Text.Base64
import Conformity.Yaml.Node
import Conformity.Yaml.Token.Stream

/-!
# Reading YAML documents

The value of a document is built from its tree of nodes. A mapping takes over the entries of the
mappings that it merges, its own entries going first; of two entries for a key the later value counts,
at the place of the earlier one. Only a single value can be a key.
-/

namespace Conformity.Yaml

/-- The value of a scalar of some kind. -/
def scalarValue (label : Nat) (kind : Kind) (text : String) : Except Fault Scalar :=
  match kind with
  | .null => .ok .null
  | .bool => ((truthValue text).map Scalar.bool).mapError .unreadable
  | .int => ((wholeValue text.toList).map Scalar.int).mapError .unreadable
  | .float => ((decimalValue text.toList).map Scalar.float).mapError .unreadable
  | .text => .ok (.text text)
  | .bytes =>
    if text.toList.all fun c => c.toNat < 0x80 then
      match Base64.decode? text.toList with
      | some bs => .ok (.bytes bs)
      | none => .error .malformed
    else .error .malformed
  | .calendar =>
    match writtenDate? text.toList with
    | some d => (d.value label).mapError fun e => .unreadable (.calendar e)
    | none => .error .malformed
  | _ => .error .malformed

/-- An entry of a mapping as it is written. -/
inductive WrittenEntry where
  | own (key value : Data)
  /-- The entries of other mappings are taken over. -/
  | lent (value : Data)

/-- The entries of a value that is written as a mapping. -/
def ofMapping : Data → Option (List (Scalar × Data))
  | .map _ es => some es
  | .set _ ms => some (ms.map fun m => (m, .null))
  | .knot _ true => some []
  | _ => none

/-- The entries that a value lends: those of a mapping, or those of all mappings of a list, the first
of which count most. -/
def lentEntries : Data → Option (List (Scalar × Data))
  | .list _ items => (items.mapM ofMapping).map fun ess => ess.reverse.flatten
  | d => ofMapping d

/-- The entries that are lent to a mapping, and its own ones. -/
def splitEntries : List WrittenEntry → Option (List (Scalar × Data) × List (Scalar × Data))
  | [] => some ([], [])
  | .lent d :: es => do
    let lent ← lentEntries d
    let (others, own) ← splitEntries es
    return (lent ++ others, own)
  | .own (.scalar k) v :: es => do
    let (lent, own) ← splitEntries es
    return (lent, (k, v) :: own)
  | .own _ _ :: _ => none

/-- The entries of a mapping. -/
def entriesOf (es : List WrittenEntry) : Except Fault (List (Scalar × Data)) :=
  match splitEntries es with
  | some (lent, own) => .ok ((lent ++ own).foldl (fun es e => Data.insert e.1 e.2 es) [])
  | none => .error .malformed

/-- The pair that a mapping of one entry stands for. -/
def pairOf : List WrittenEntry → Except Fault Data
  | [.own k v] => .ok (.pair 0 k v)
  | _ => .error .malformed

mutual

/-- The value of a node. -/
def Node.value : Node → Except Fault Data
  | .scalar label kind text => (scalarValue label kind text).map .scalar
  | .sequence label .list items => (Node.values items).map (.list label)
  | .sequence label .pairs items => (Node.pairs items).map (.list label)
  | .mapping label .map entries => do return .map label (← entriesOf (← Node.entries entries))
  | .mapping label .set entries => do
    return .set label ((← entriesOf (← Node.entries entries)).map (·.1))
  | .knot label isMap => .ok (.knot label isMap)
  | _ => .error .malformed

/-- The values of nodes. -/
def Node.values : List Node → Except Fault (List Data)
  | [] => .ok []
  | n :: ns => do
    let d ← n.value
    return d :: (← Node.values ns)

/-- The pairs that nodes stand for. -/
def Node.pairs : List Node → Except Fault (List Data)
  | [] => .ok []
  | .mapping _ _ entries :: ns => do
    let d ← pairOf (← Node.entries entries)
    return d :: (← Node.pairs ns)
  | _ :: _ => .error .malformed

/-- The entries of a mapping as they are written. -/
def Node.entries : List (Node × Node) → Except Fault (List WrittenEntry)
  | [] => .ok []
  | (k, v) :: es => do
    let e ←
      match k with
      | .scalar _ .merge _ => v.value.map WrittenEntry.lent
      | .scalar _ .value text => v.value.map (WrittenEntry.own (.text text))
      | k => k.value.bind fun key => v.value.map (WrittenEntry.own key)
    return e :: (← Node.entries es)

end

/-- Reads a document; an empty one has no value. -/
def read (bs : Bytes) : Except Fault Data :=
  match charsOf? bs with
  | none => .error .malformed
  | some cs => do
    match ← Node.ofTokens (Token.ofChars cs) with
    | some n => n.value
    | none => return .null

end Conformity.Yaml

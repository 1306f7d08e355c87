import Conformity.Data.Scalar

/-!
# Document values

The value of a document of nested lists and mappings. A mapping keeps the order of its entries. A
collection that a document mentions in several places is one node: all its occurrences carry the same
label, so that writing the value can mention it again and changing it changes every occurrence. Label
0 marks a node that is mentioned once. A node that lies within itself is a `knot` there.
-/

namespace Conformity

/-- A document value. -/
inductive Data where
  | scalar (value : Scalar)
  | list (label : Nat) (items : List Data)
  | map (label : Nat) (entries : List (Scalar × Data))
  /-- A set of keys. -/
  | set (label : Nat) (members : List Scalar)
  /-- Two values in order. -/
  | pair (label : Nat) (first second : Data)
  /-- The node with this label, which encloses the knot; is it a mapping? -/
  | knot (label : Nat) (mapping : Bool)
  deriving Repr

namespace Data

/-- No value. -/
def null : Data := scalar .null

/-- A text. -/
def text (s : String) : Data := scalar (.text s)

/-- A whole number. -/
def int (n : Int) : Data := scalar (.int n)

/-- A truth value. -/
def bool (b : Bool) : Data := scalar (.bool b)

/-- A list mentioned once. -/
def ofList (items : List Data) : Data := list 0 items

/-- A mapping mentioned once, its keys being texts. -/
def ofEntries (entries : List (String × Data)) : Data :=
  map 0 (entries.map fun e => (.text e.1, e.2))

/-- A text, or no value. -/
def ofText? (s : Option String) : Data := (s.map text).getD null

/-- A whole number, or no value. -/
def ofInt? (n : Option Int) : Data := (n.map int).getD null

/-- A list of texts. -/
def texts (ss : List String) : Data := ofList (ss.map text)

/-- Is this no value? -/
def isNull : Data → Bool
  | scalar .null => true
  | _ => false

/-- The text, if the value is one. -/
def text? : Data → Option String
  | scalar (.text s) => some s
  | _ => none

/-- The items, if the value is a list. -/
def items? : Data → Option (List Data)
  | list _ xs => some xs
  | _ => none

/-- The entries, if the value is a mapping. -/
def entries? : Data → Option (List (Scalar × Data))
  | map _ es => some es
  | _ => none

/-- The value of a key among entries. -/
def lookup (key : Scalar) (entries : List (Scalar × Data)) : Option Data :=
  (entries.find? fun e => key.sameKey e.1).map (·.2)

/-- The value of a text key among entries. -/
def field (key : String) (entries : List (Scalar × Data)) : Option Data :=
  lookup (.text key) entries

/-- Sets the value of a key: in place if the key is there, at the end otherwise. -/
def insert (key : Scalar) (value : Data) : List (Scalar × Data) → List (Scalar × Data)
  | [] => [(key, value)]
  | e :: es => if key.sameKey e.1 then (e.1, value) :: es else e :: insert key value es

/-- Removes a key. -/
def erase (key : Scalar) (entries : List (Scalar × Data)) : List (Scalar × Data) :=
  entries.filter fun e => !key.sameKey e.1

/-- Is a mapping or list empty, a text empty, a number zero, a truth value false, or nothing there? -/
def isFalsy : Data → Bool
  | scalar .null => true
  | scalar (.bool b) => !b
  | scalar (.int n) => n == 0
  | scalar (.float (.finite _ m _)) => m == 0
  | scalar (.text s) => s.isEmpty
  | scalar (.bytes bs) => bs.isEmpty
  | list _ xs => xs.isEmpty
  | map _ es => es.isEmpty
  | set _ ms => ms.isEmpty
  | _ => false

mutual

/-- Replaces the mapping with a label, wherever it occurs, by one of other entries. -/
def replace (label : Nat) (entries : List (Scalar × Data)) : Data → Data
  | list l xs => list l (replaceAll label entries xs)
  | map l es => if l = label then map l entries else map l (replaceEntries label entries es)
  | pair l a b => pair l (replace label entries a) (replace label entries b)
  | d => d

/-- Replaces a mapping in every item. -/
def replaceAll (label : Nat) (entries : List (Scalar × Data)) : List Data → List Data
  | [] => []
  | x :: xs => replace label entries x :: replaceAll label entries xs

/-- Replaces a mapping in every value of a mapping. -/
def replaceEntries (label : Nat) (entries : List (Scalar × Data)) :
    List (Scalar × Data) → List (Scalar × Data)
  | [] => []
  | (k, x) :: es => (k, replace label entries x) :: replaceEntries label entries es

end

mutual

/-- The node with a label inside a value. -/
def node? (label : Nat) : Data → Option Data
  | list l xs => if l = label then some (list l xs) else nodeAmong? label xs
  | map l es => if l = label then some (map l es) else nodeWithin? label es
  | pair l a b =>
    if l = label then some (pair l a b)
    else
      match node? label a with
      | some d => some d
      | none => node? label b
  | _ => none

/-- The node with a label inside one of the items. -/
def nodeAmong? (label : Nat) : List Data → Option Data
  | [] => none
  | x :: xs =>
    match node? label x with
    | some d => some d
    | none => nodeAmong? label xs

/-- The node with a label inside one of the values of a mapping. -/
def nodeWithin? (label : Nat) : List (Scalar × Data) → Option Data
  | [] => none
  | (_, x) :: es =>
    match node? label x with
    | some d => some d
    | none => nodeWithin? label es

end

mutual

/-- Puts `find label` in place of each knot. -/
def untie (find : Nat → Option Data) : Data → Data
  | list l xs => list l (untieAll find xs)
  | map l es => map l (untieEntries find es)
  | pair l a b => pair l (untie find a) (untie find b)
  | knot l m => (find l).getD (knot l m)
  | d => d

/-- Puts values in place of the knots of every item. -/
def untieAll (find : Nat → Option Data) : List Data → List Data
  | [] => []
  | x :: xs => untie find x :: untieAll find xs

/-- Puts values in place of the knots of every value of a mapping. -/
def untieEntries (find : Nat → Option Data) : List (Scalar × Data) → List (Scalar × Data)
  | [] => []
  | (k, x) :: es => (k, untie find x) :: untieEntries find es

end

/-- Follows the knots of a value inside `root` to a depth of `n`. -/
def unroll (root : Data) : (n : Nat) → Data → Data
  | 0, d => d
  | n + 1, d => unroll root n (untie (node? · root) d)

end Data

end Conformity

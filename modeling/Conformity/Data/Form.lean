import Conformity.Data.Shown

/-!
# Forms of documents

A form tells what a value of a document has to look like: of which sorts it may be, which fields a
record needs, and the forms of the parts. Checking a value gives every misfit with its place, in the
order of the forms (`Form.misfits`); a report tells them in the order of their places
(`Misfit.report`). Places are compared step by step; there is no order between steps of different
sorts, such as a number and a text.
-/

namespace Conformity

/-- A sort of values that a form tells apart. -/
inductive DataSort where
  | object
  | array
  | string
  | number
  | null
  deriving DecidableEq, Repr

namespace DataSort

/-- The name of a sort in messages. -/
def name : DataSort → String
  | object => "object"
  | array => "array"
  | string => "string"
  | number => "number"
  | null => "null"

/-- The sort of a value; truth values, bytes, days and moments have none. -/
def of? : Data → Option DataSort
  | .scalar .null => some null
  | .scalar (.int _) | .scalar (.float _) => some number
  | .scalar (.text _) => some string
  | .list .. => some array
  | .map .. => some object
  | .knot _ mapping => some (if mapping then object else array)
  | _ => none

end DataSort

/-- What a value has to look like. -/
inductive Form where
  /-- One of several texts. -/
  | choice (texts : List String)
  /-- A value of one of several sorts. -/
  | ofSort (sorts : List DataSort)
  /-- If a list, then all its items have a form. -/
  | listOf (sorts : List DataSort) (items : Form)
  /-- If a mapping, then all its values have a form. -/
  | tableOf (sorts : List DataSort) (values : Form)
  /-- If a mapping, then some fields are there, and fields with a form of their own have that. -/
  | record (sorts : List DataSort) (required : List String) (fields : List (String × Form))

/-- A place inside a value: the keys and positions that lead to it. -/
abbrev Route := List Scalar

/-- Something about a value that does not fit its form. -/
inductive MisfitCause where
  | sort (value : Data) (sorts : List DataSort)
  | required (field : String)
  | choice (value : Data) (texts : List String)

/-- Something that does not fit, and where. -/
structure Misfit where
  route : Route
  cause : MisfitCause

namespace Misfit

/-- The wording of a misfit without its place. -/
def message (m : Misfit) : String :=
  match m.cause with
  | .sort value sorts =>
    value.shown ++ " is not of type " ++
      ", ".intercalate (sorts.map fun s => Text.quoted s.name)
  | .required field => Text.quoted field ++ " is a required property"
  | .choice value texts => value.shown ++ " is not one of " ++ Text.quotedList texts

/-- Moves a misfit inside a part of a value. -/
def inside (step : Scalar) (m : Misfit) : Misfit := { m with route := step :: m.route }

end Misfit

namespace Form

/-- The misfit of a value that is of none of the sorts. -/
def sortMisfits (sorts : List DataSort) (d : Data) : List Misfit :=
  if (DataSort.of? d).any sorts.contains then [] else [⟨[], .sort d sorts⟩]

/-- The misfits of a list's items, each at its position. -/
def atPositions (check : Data → List Misfit) : (position : Nat) → List Data → List Misfit
  | _, [] => []
  | n, d :: ds => (check d).map (Misfit.inside (.int n)) ++ atPositions check (n + 1) ds

mutual

/-- Everything about a value that does not fit a form. -/
def misfits : Form → Data → List Misfit
  | choice texts, d =>
    if d.text?.any texts.contains then [] else [⟨[], .choice d texts⟩]
  | ofSort sorts, d => sortMisfits sorts d
  | listOf sorts form, d =>
    sortMisfits sorts d ++ atPositions (misfits form) 0 ((d.items?).getD [])
  | tableOf sorts form, d =>
    sortMisfits sorts d ++
      ((d.entries?).getD []).flatMap fun e => (misfits form e.2).map (Misfit.inside e.1)
  | record sorts required fields, d =>
    sortMisfits sorts d ++
      match d.entries? with
      | none => []
      | some es =>
        (required.filter fun name => (Data.field name es).isNone).map
            (fun name => ⟨[], .required name⟩) ++
          fieldMisfits fields es

/-- What does not fit in the fields of a record. -/
def fieldMisfits : List (String × Form) → List (Scalar × Data) → List Misfit
  | [], _ => []
  | (name, form) :: fields, es =>
    (match Data.field name es with
      | some d => (misfits form d).map (Misfit.inside (.text name))
      | none => []) ++ fieldMisfits fields es

end

end Form

/-! ## Reports -/

/-- What is wrong with the places of misfits. -/
inductive RouteFault where
  /-- Two steps of different sorts cannot be ordered. -/
  | unordered (left right : String)
  /-- A step has no spelling. -/
  | unnamed (sort : String)
  deriving DecidableEq, Repr

/-- The wording of a fault of places. -/
def RouteFault.message : RouteFault → String
  | unordered left right =>
    "'<' not supported between instances of '" ++ left ++ "' and '" ++ right ++ "'"
  | unnamed sort =>
    if sort == "bytes" then "cannot use a string pattern on a bytes-like object"
    else "expected string or bytes-like object, got '" ++ sort ++ "'"

/-- The name of a scalar's sort in messages. -/
def Scalar.sortName : Scalar → String
  | null => "NoneType"
  | bool _ => "bool"
  | int _ => "int"
  | float _ => "float"
  | text _ => "str"
  | bytes _ => "bytes"
  | day .. => "datetime.date"
  | moment .. => "datetime.datetime"

namespace Route

/-- The order of two steps that differ. -/
def stepLess (a b : Scalar) : Except RouteFault Bool :=
  match a, b with
  | .text s, .text t => .ok (s < t)
  | .bytes s, .bytes t => .ok (s < t)
  | .day _ d, .day _ e => .ok (d.number < e.number)
  | .moment _ m, .moment _ n => .ok (m.ticks < n.ticks)
  | .float x, .float y => .ok (x.less y)
  | .float x, b =>
    match b.whole? with
    | some n => .ok (x.less (.ofInt n))
    | none => .error (.unordered "float" b.sortName)
  | a, .float y =>
    match a.whole? with
    | some n => .ok ((Double.ofInt n).less y)
    | none => .error (.unordered a.sortName "float")
  | a, b =>
    match a.whole?, b.whole? with
    | some m, some n => .ok (m < n)
    | _, _ => .error (.unordered a.sortName b.sortName)

/-- The order of routes, decided by the first steps that differ. -/
def less : Route → Route → Except RouteFault Bool
  | _, [] => .ok false
  | [], _ :: _ => .ok true
  | a :: as, b :: bs => if a.sameKey b then less as bs else stepLess a b

/-- A letter or digit of ASCII or an underscore. -/
def isNameChar (c : Char) : Bool := c.isAlphanum || c == '_'

/-- A name that needs no quotes: a letter with letters, digits and underscores behind it. -/
def isPlainName (s : String) : Bool :=
  match s.toList with
  | [] => false
  | c :: cs =>
    let cs := if cs.getLast? == some '\n' then cs.dropLast else cs
    c.isAlpha && cs.all isNameChar

/-- A step as it is spelled in reports. -/
def stepText : Scalar → Except RouteFault String
  | .int n => .ok ("[" ++ toString n ++ "]")
  | .bool b => .ok ("[" ++ (Scalar.bool b).shown ++ "]")
  | .text s =>
    if isPlainName s then .ok ("." ++ s)
    else
      let escape (c : Char) : List Char := if c == '\\' || c == '\'' then ['\\', c] else [c]
      .ok ("['" ++ String.ofList (s.toList.flatMap escape) ++ "']")
  | k => .error (.unnamed k.sortName)

/-- A route as it is spelled in reports. -/
def text (r : Route) : Except RouteFault String := do
  return "$" ++ String.join (← r.mapM stepText)

end Route

namespace Misfit

/-- Is a misfit to be told before another one? -/
def before (m n : Misfit) : Except RouteFault Bool := m.route.less n.route

/-- The number of misfits at the front that are in order, or each before the one in front of it. -/
def runLength (descending : Bool) : (count : Nat) → Misfit → List Misfit → Except RouteFault Nat
  | count, _, [] => .ok count
  | count, m, n :: ns => do
    if (← before n m) == descending then runLength descending (count + 1) n ns else return count

/-- Where a misfit belongs among ordered ones: behind those that are not after it. The search halves
the part between `low` and `high`. -/
def placeAmong (ms : Array Misfit) (m : Misfit) :
    (fuel : Nat) → (low high : Nat) → Except RouteFault Nat
  | 0, low, _ => .ok low
  | fuel + 1, low, high =>
    if low < high then
      let middle := low + (high - low) / 2
      match ms[middle]? with
      | none => .ok low
      | some n => do
        if ← before m n then placeAmong ms m fuel low middle
        else placeAmong ms m fuel (middle + 1) high
    else .ok low

/-- Inserts misfits one after another among ordered ones. -/
def insertAll (ordered : List Misfit) : List Misfit → Except RouteFault (List Misfit)
  | [] => .ok ordered
  | m :: ms => do
    let place ← placeAmong ordered.toArray m (ordered.length + 1) 0 ordered.length
    insertAll (ordered.take place ++ m :: ordered.drop place) ms

/-- Misfits in the order of their places; those of one place keep their order. -/
def ordered : List Misfit → Except RouteFault (List Misfit)
  | [] => .ok []
  | [m] => .ok [m]
  | m :: n :: ms => do
    let descending ← before n m
    let count ← runLength descending 2 n ms
    let all := m :: n :: ms
    let front := all.take count
    insertAll (if descending then front.reverse else front) (all.drop count)

/-- Tells misfits with their places. -/
def report (ms : List Misfit) : Except RouteFault (List String) := do
  (← ordered ms).mapM fun m => do return (← m.route.text) ++ ": " ++ m.message

end Misfit

end Conformity

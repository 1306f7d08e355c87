import Conformity.Data.Value
import Conformity.Text.Blank

/-!
# Reading records with all their complaints

A record is read field by field. What is wrong with a field is a complaint with the place where it
was found; reading several fields collects the complaints of all of them (`Checked.both`), and only a
record without complaints has a value. Numbers and truth values are also taken from texts and from
other numbers of the same value.
-/

namespace Conformity

/-- What is wrong with a value. -/
inductive Wrong where
  | missing
  | notText
  | notWhole
  | unreadableWhole
  | wholeTooLong
  | fractional
  | notFinite
  | notTruth
  | unreadableTruth
  | notAmongNames
  | notMapping
  | notRecord
  | notList
  | notRow
  | notSet
  | unknownField
  /-- The value has the right form and is refused for a reason. -/
  | refused (reason : String)
  deriving DecidableEq, Repr

/-- What is wrong, and where: field names and positions from the outside in. -/
structure Complaint where
  place : List String
  wrong : Wrong
  deriving DecidableEq, Repr

/-- A value, or the complaints about what should have given it. -/
abbrev Checked (α : Type) := Except (List Complaint) α

namespace Checked

/-- A value refused at the place itself. -/
def fail {α : Type} (w : Wrong) : Checked α := .error [⟨[], w⟩]

/-- Moves complaints inside a field. -/
def inside {α : Type} (field : String) : Checked α → Checked α
  | .ok a => .ok a
  | .error cs => .error (cs.map fun c => { c with place := field :: c.place })

/-- A function and its argument; the complaints of both are collected. -/
def both {α β : Type} : Checked (α → β) → Checked α → Checked β
  | .ok f, .ok a => .ok (f a)
  | .error cs, .ok _ => .error cs
  | .ok _, .error ds => .error ds
  | .error cs, .error ds => .error (cs ++ ds)

/-- All values of a list, or the complaints about any of them. -/
def all {α : Type} : List (Checked α) → Checked (List α)
  | [] => .ok []
  | x :: xs => both (x.map List.cons) (all xs)

/-- All values of a list, each at its position. -/
def atEach {α β : Type} (read : α → Checked β) : (position : Nat) → List α → Checked (List β)
  | _, [] => .ok []
  | i, x :: xs => both ((inside (toString i) (read x)).map List.cons) (atEach read (i + 1) xs)

/-- A value that has to satisfy a condition. -/
def ensure {α : Type} (ok : α → Bool) (reason : α → String) (x : Checked α) : Checked α :=
  match x with
  | .ok a => if ok a then .ok a else fail (.refused (reason a))
  | .error cs => .error cs

end Checked

namespace Data

/-- Reads a text. -/
def asText : Data → Checked String
  | scalar (.text s) => .ok s
  | _ => .fail .notText

/-- Reads a text or nothing. -/
def asText? : Data → Checked (Option String)
  | scalar .null => .ok none
  | d => d.asText.map some

/-- Digits with single underscores between them. -/
def groupedDigits : (afterDigit : Bool) → List Char → Option (List Char)
  | afterDigit, [] => if afterDigit then some [] else none
  | afterDigit, c :: cs =>
    if c.isDigit then (groupedDigits true cs).map (c :: ·)
    else if c == '_' && afterDigit then groupedDigits false cs
    else none

/-- A whole number written with a sign, underscores between its digits and zeros behind its point, all
of which may be left out. -/
def wholeOf? (s : String) : Option Int :=
  let cs := Text.trimChars s.toList
  let (negative, cs) :=
    match cs with
    | '-' :: cs => (true, cs)
    | '+' :: cs => (false, cs)
    | _ => (false, cs)
  let whole := cs.takeWhile (· != '.')
  if (cs.dropWhile (· != '.')).all fun c => c == '.' || c == '0' then
    if 1 < cs.count '.' then none
    else
      (groupedDigits false whole).map fun ds =>
        let n : Int := (ds.foldl (fun n c => n * 10 + (c.toNat - 48)) 0 : Nat)
        if negative then -n else n
  else none

/-- Does a whole number with its sign fit into a word of 64 bits? -/
def fitsWord (n : Int) : Bool := decide (n.natAbs < 0x8000000000000000)

/-- Reads a whole number. -/
def asWhole : Data → Checked Int
  | scalar (.int n) => .ok n
  | scalar (.bool b) => .ok (if b then 1 else 0)
  | scalar (.float x) =>
    match x with
    | .finite .. =>
      match x.toInt? with
      | none => .fail .fractional
      | some n => if fitsWord n then .ok n else .fail .wholeTooLong
    | _ => .fail .notFinite
  | scalar (.text s) =>
    match wholeOf? s with
    | some n => .ok n
    | none => .fail .unreadableWhole
  | _ => .fail .notWhole

/-- The words for a truth value. -/
def truthOf? (s : String) : Option Bool :=
  let s := s.map Char.toLower
  if ["1", "on", "t", "true", "y", "yes"].contains s then some true
  else if ["0", "off", "f", "false", "n", "no"].contains s then some false
  else none

/-- Reads a truth value. -/
def asTruth : Data → Checked Bool
  | scalar (.bool b) => .ok b
  | scalar (.text s) =>
    match truthOf? s with
    | some b => .ok b
    | none => .fail .unreadableTruth
  | scalar (.int n) =>
    if n = 0 then .ok false else if n = 1 then .ok true else .fail .unreadableTruth
  | scalar (.float x) =>
    match x.toInt? with
    | none => .fail .notTruth
    | some n =>
      if n = 0 then .ok false else if n = 1 then .ok true
      else if fitsWord n then .fail .unreadableTruth else .fail .notTruth
  | _ => .fail .notTruth

/-- Reads one of several names. -/
def asName {α : Type} (ofName? : String → Option α) (d : Data) : Checked α :=
  match d.text?.bind ofName? with
  | some a => .ok a
  | none => .fail .notAmongNames

/-- Reads a list, or what `otherwise` says of anything else. -/
def asItems {α : Type} (otherwise : Wrong) (read : Data → Checked α) (d : Data) :
    Checked (List α) :=
  match d.items? with
  | some xs => Checked.atEach read 0 xs
  | none => .fail otherwise

/-- The fields of a record. -/
abbrev Fields := List (Scalar × Data)

/-- Reads a record. -/
def asRecord {α : Type} (read : Fields → Checked α) (d : Data) : Checked α :=
  match d.entries? with
  | some es => read es
  | none => .fail .notRecord

/-- Reads a mapping from names to values of one kind. -/
def asMapping {α β : Type} (readKey : Data → Checked α) (readValue : Data → Checked β) (d : Data) :
    Checked (List (α × β)) :=
  match d.entries? with
  | none => .fail .notMapping
  | some es =>
    Checked.all (es.map fun (k, v) =>
      Checked.inside k.plain
        (Checked.both ((Checked.inside "[key]" (readKey (scalar k))).map Prod.mk) (readValue v)))

namespace Fields

/-- The first of several names that a record has, with its value. -/
def find? (fields : Fields) : List String → Option (String × Data)
  | [] => none
  | name :: names =>
    match Data.field name fields with
    | some d => some (name, d)
    | none => find? fields names

/-- Reads a field under any of its names, the first of which is its own. -/
def required {α : Type} (fields : Fields) (names : List String) (read : Data → Checked α) :
    Checked α :=
  match find? fields names with
  | some (name, d) => Checked.inside name (read d)
  | none => .error [⟨names.take 1, .missing⟩]

/-- Reads a field under any of its names; a field that is not there has a value of its own. -/
def optional {α : Type} (fields : Fields) (names : List String) (absent : α)
    (read : Data → Checked α) : Checked α :=
  match find? fields names with
  | some (name, d) => Checked.inside name (read d)
  | none => .ok absent

/-- Complains about every field with a name that is not known. -/
def onlyKnown (fields : Fields) (known : List String) : Checked Unit :=
  let unknown := fields.filter fun e => !known.contains e.1.plain
  if unknown.isEmpty then .ok ()
  else .error (unknown.map fun e => ⟨[e.1.plain], .unknownField⟩)

end Fields

end Data

end Conformity

import Conformity.Data.Value
import Conformity.Text.Cut

/-!
# JSON

Reading and writing document values as JSON. Numbers without fraction and exponent are whole numbers
of any size; the words `NaN`, `Infinity` and `-Infinity` are numbers too. Of two members with one
name the later value counts, at the place of the earlier one.
-/

namespace Conformity.Json

/-- Blanks between the parts of a text. -/
def isSpace (c : Char) : Bool := c == ' ' || c == '\t' || c == '\n' || c == '\r'

/-- Drops the blanks in front. -/
def skipSpace (cs : List Char) : List Char := cs.dropWhile isSpace

/-- The value of a hexadecimal digit. -/
def hexValue? (c : Char) : Option Nat :=
  if c.isDigit then some (c.toNat - 48)
  else if 'a' ≤ c && c ≤ 'f' then some (c.toNat - 87)
  else if 'A' ≤ c && c ≤ 'F' then some (c.toNat - 55)
  else none

/-- A number of four hexadecimal digits. -/
def hex4? : List Char → Option (Nat × List Char)
  | a :: b :: c :: d :: rest => do
    let a ← hexValue? a
    let b ← hexValue? b
    let c ← hexValue? c
    let d ← hexValue? d
    return (((a * 16 + b) * 16 + c) * 16 + d, rest)
  | _ => none

/-- The characters that a code written in two halves stands for; a half alone stands for the
replacement character. -/
def joinHalves (high low : Nat) : Option Char :=
  if 0xD800 ≤ high && high < 0xDC00 && 0xDC00 ≤ low && low < 0xE000 then
    some (Char.ofNat (0x10000 + (high - 0xD800) * 1024 + (low - 0xDC00)))
  else none

/-- The character with a code, or the replacement character. -/
def charOf (n : Nat) : Char := if n.isValidChar then Char.ofNat n else Text.replacementChar

/-- The character that a backslash and `c` stand for. -/
def escape? : Char → Option Char
  | '"' => some '"'
  | '\\' => some '\\'
  | '/' => some '/'
  | 'b' => some (Char.ofNat 8)
  | 'f' => some (Char.ofNat 12)
  | 'n' => some '\n'
  | 'r' => some '\r'
  | 't' => some '\t'
  | _ => none

/-- Reads a text up to its closing quote; `read` has what was read so far, last character first. -/
def readText : (fuel : Nat) → (read : List Char) → List Char → Option (List Char × List Char)
  | 0, _, _ => none
  | fuel + 1, read, cs =>
    match cs with
    | '"' :: rest => some (read.reverse, rest)
    | '\\' :: 'u' :: rest => do
      let (n, rest) ← hex4? rest
      match rest with
      | '\\' :: 'u' :: rest' =>
        match (hex4? rest').bind fun p => (joinHalves n p.1).map (·, p.2) with
        | some (c, rest') => readText fuel (c :: read) rest'
        | none => readText fuel (charOf n :: read) rest
      | _ => readText fuel (charOf n :: read) rest
    | '\\' :: c :: rest => do readText fuel ((← escape? c) :: read) rest
    | c :: rest => if c.toNat < 0x20 then none else readText fuel (c :: read) rest
    | [] => none

/-- The value of decimal digits. -/
def natOf (digits : List Char) : Nat := digits.foldl (fun n c => n * 10 + (c.toNat - 48)) 0

/-- The fraction behind a decimal point: its digits, and what follows. Nothing without digits. -/
def fraction (cs : List Char) : List Char × List Char :=
  match cs with
  | '.' :: rest =>
    let digits := rest.takeWhile Char.isDigit
    if digits.isEmpty then ([], cs) else (digits, rest.dropWhile Char.isDigit)
  | _ => ([], cs)

/-- The exponent behind a mantissa, if there is one, and what follows. -/
def exponent (cs : List Char) : Option Int × List Char :=
  let withSign (negative : Bool) (rest : List Char) : Option Int × List Char :=
    let digits := rest.takeWhile Char.isDigit
    if digits.isEmpty then (none, cs)
    else
      let n : Int := natOf digits
      (some (if negative then -n else n), rest.dropWhile Char.isDigit)
  match cs with
  | c :: rest =>
    if c == 'e' || c == 'E' then
      match rest with
      | '-' :: rest => withSign true rest
      | '+' :: rest => withSign false rest
      | _ => withSign false rest
    else (none, cs)
  | [] => (none, cs)

/-- Reads a number without its sign. -/
def readNumber (negative : Bool) (cs : List Char) : Option (Data × List Char) :=
  let whole :=
    match cs with
    | '0' :: _ => ['0']
    | _ => cs.takeWhile Char.isDigit
  if whole.isEmpty then none
  else
    let rest := cs.drop whole.length
    let (places, rest) := fraction rest
    let (power, rest) := exponent rest
    if places.isEmpty && power.isNone then
      let n : Int := natOf whole
      some (.int (if negative then -n else n), rest)
    else
      let x := Double.ofDecimal negative (natOf (whole ++ places)) (power.getD 0 - places.length)
      some (.scalar (.float x), rest)

/-- The words that stand for values. -/
def words : List (String × Data) :=
  [("null", .null), ("true", .bool true), ("false", .bool false), ("NaN", .scalar (.float .nan)),
   ("Infinity", .scalar (.float (.infinity false))),
   ("-Infinity", .scalar (.float (.infinity true)))]

/-- Reads one of the words. -/
def readWord (cs : List Char) : Option (Data × List Char) :=
  words.findSome? fun w => (Text.after? w.1.toList cs).map (w.2, ·)

mutual

/-- Reads a value behind its blanks. -/
def readValue : (fuel : Nat) → List Char → Option (Data × List Char)
  | 0, _ => none
  | fuel + 1, cs =>
    match cs with
    | '"' :: rest =>
      (readText (rest.length + 1) [] rest).map fun p => (.text (String.ofList p.1), p.2)
    | '[' :: rest =>
      match skipSpace rest with
      | ']' :: rest => some (.ofList [], rest)
      | rest => readItems fuel [] rest
    | '{' :: rest =>
      match skipSpace rest with
      | '}' :: rest => some (.map 0 [], rest)
      | rest => readMembers fuel [] rest
    | '-' :: rest =>
      match readWord cs with
      | some found => some found
      | none => readNumber true rest
    | c :: _ => if c.isDigit then readNumber false cs else readWord cs
    | [] => none

/-- Reads the items of a list, from an item on; `read` has those before it, last one first. -/
def readItems : (fuel : Nat) → (read : List Data) → List Char → Option (Data × List Char)
  | 0, _, _ => none
  | fuel + 1, read, cs =>
    match readValue fuel cs with
    | none => none
    | some (x, rest) =>
      match skipSpace rest with
      | ',' :: rest => readItems fuel (x :: read) (skipSpace rest)
      | ']' :: rest => some (.ofList (x :: read).reverse, rest)
      | _ => none

/-- Reads the members of a mapping, from a name on; `read` has those before it in order. -/
def readMembers : (fuel : Nat) → (read : List (Scalar × Data)) → List Char →
    Option (Data × List Char)
  | 0, _, _ => none
  | fuel + 1, read, cs =>
    match cs with
    | '"' :: rest =>
      match readText (rest.length + 1) [] rest with
      | none => none
      | some (name, rest) =>
        match skipSpace rest with
        | ':' :: rest =>
          match readValue fuel (skipSpace rest) with
          | none => none
          | some (x, rest) =>
            let read := Data.insert (.text (String.ofList name)) x read
            match skipSpace rest with
            | ',' :: rest => readMembers fuel read (skipSpace rest)
            | '}' :: rest => some (.map 0 read, rest)
            | _ => none
        | _ => none
    | _ => none

end

/-- Reads a text that is one value with blanks around it. -/
def parse (cs : List Char) : Option Data :=
  match readValue (2 * cs.length + 2) (skipSpace cs) with
  | some (d, rest) => if (skipSpace rest).isEmpty then some d else none
  | none => none

/-! ## Writing -/

/-- How a written text shows a character. -/
def escapeChar (c : Char) : List Char :=
  if c == '"' then ['\\', '"']
  else if c == '\\' then ['\\', '\\']
  else if c == '\n' then ['\\', 'n']
  else if c == '\r' then ['\\', 'r']
  else if c == '\t' then ['\\', 't']
  else if c.toNat == 8 then ['\\', 'b']
  else if c.toNat == 12 then ['\\', 'f']
  else if c.toNat < 0x20 then '\\' :: 'u' :: Text.hexDigits 4 c.toNat
  else [c]

/-- A text between double quotes. -/
def quoted (s : String) : String := String.ofList ('"' :: s.toList.flatMap escapeChar ++ ['"'])

/-- The text of a floating-point number. -/
def floatText : Double → String
  | .nan => "NaN"
  | .infinity s => if s then "-Infinity" else "Infinity"
  | x => x.text

/-- The text of a single value; what JSON does not know is written as a text. -/
def scalarText : Scalar → String
  | .null => "null"
  | .bool b => if b then "true" else "false"
  | .int n => toString n
  | .float x => floatText x
  | s => quoted s.plain

/-- The name of a member. -/
def memberName : Scalar → String
  | .null => quoted "null"
  | .bool b => quoted (if b then "true" else "false")
  | .float x => quoted (floatText x)
  | s => quoted s.plain

mutual

/-- A value without any blanks. -/
def compact : Data → String
  | .scalar s => scalarText s
  | .list _ xs => "[" ++ ",".intercalate (compactItems xs) ++ "]"
  | .map _ es => "\x7b" ++ ",".intercalate (compactMembers es) ++ "\x7d"
  | .set _ ms => "[" ++ ",".intercalate (ms.map scalarText) ++ "]"
  | .pair _ a b => "[" ++ compact a ++ "," ++ compact b ++ "]"
  | .knot .. => "null"

/-- The items of a list. -/
def compactItems : List Data → List String
  | [] => []
  | x :: xs => compact x :: compactItems xs

/-- The members of a mapping. -/
def compactMembers : List (Scalar × Data) → List String
  | [] => []
  | (k, x) :: es => (memberName k ++ ":" ++ compact x) :: compactMembers es

end

/-- A line break and the blanks that indent by `n` levels of two. -/
def newline (n : Nat) : String := String.ofList ('\n' :: List.replicate (2 * n) ' ')

mutual

/-- A value with each item and member on a line of its own, at a level of indentation. -/
def prettyAt (level : Nat) : Data → String
  | .scalar s => scalarText s
  | .list _ xs =>
    if xs.isEmpty then "[]"
    else
      "[" ++ newline (level + 1) ++
        ("," ++ newline (level + 1)).intercalate (prettyItems (level + 1) xs) ++ newline level ++ "]"
  | .map _ es =>
    if es.isEmpty then "\x7b\x7d"
    else
      "\x7b" ++ newline (level + 1) ++
        ("," ++ newline (level + 1)).intercalate (prettyMembers (level + 1) es) ++ newline level ++
        "\x7d"
  | d => compact d

/-- The items of a list on lines of their own. -/
def prettyItems (level : Nat) : List Data → List String
  | [] => []
  | x :: xs => prettyAt level x :: prettyItems level xs

/-- The members of a mapping on lines of their own. -/
def prettyMembers (level : Nat) : List (Scalar × Data) → List String
  | [] => []
  | (k, x) :: es => (memberName k ++ ": " ++ prettyAt level x) :: prettyMembers level es

end

/-- A value with each item and member on a line of its own. -/
def pretty (d : Data) : String := prettyAt 0 d

end Conformity.Json

import Conformity.Data.Json
import Conformity.Text.Lowercase
import Conformity.Text.Numeral
import Conformity.Text.Blank
import Conformity.Yaml.Fault

/-!
# Numbers in YAML

A whole number is written in base 2, 8, 10 or 16 or in parts of base 60; a number with a decimal
point may have an exponent or parts of base 60 too. Underscores may stand between digits. The forms
that make a plain scalar a number (`isWhole`, `isDecimal`) are narrower than what is read where a tag
asks for a number (`wholeValue`, `decimalValue`).
-/

namespace Conformity.Yaml

/-- A decimal digit or an underscore. -/
def isDigitMark (c : Char) : Bool := c.isDigit || c == '_'

/-- A sign, whether it is negative, and what follows. -/
def signed (cs : List Char) : Bool × List Char :=
  match cs with
  | '-' :: cs => (true, cs)
  | '+' :: cs => (false, cs)
  | _ => (false, cs)

/-! ## The forms of numbers -/

/-- A part of a number in base 60: a number below 60 in one or two digits. -/
def isSixtieth : List Char → Bool
  | [a] => a.isDigit
  | [a, b] => '0' ≤ a && a ≤ '5' && b.isDigit
  | _ => false

/-- Digits and underscores, perhaps with parts of base 60 behind them. -/
def isSexagesimal (cs : List Char) : Bool :=
  match Text.split ':' cs with
  | head :: parts => head.all isDigitMark && parts.all isSixtieth
  | [] => false

/-- Is a plain scalar a whole number? -/
def isWhole (cs : List Char) : Bool :=
  match (signed cs).2 with
  | ['0'] => true
  | '0' :: 'b' :: ds => !ds.isEmpty && ds.all fun c => c == '0' || c == '1' || c == '_'
  | '0' :: 'x' :: ds => !ds.isEmpty && ds.all fun c => (Json.hexValue? c).isSome || c == '_'
  | '0' :: ds => ds.all fun c => ('0' ≤ c && c ≤ '7') || c == '_'
  | c :: cs => c.isDigit && isSexagesimal (c :: cs)
  | [] => false

/-- Is this the exponent of a decimal number, or nothing? -/
def isExponent : List Char → Bool
  | [] => true
  | e :: sign :: digits =>
    (e == 'e' || e == 'E') && (sign == '+' || sign == '-') && !digits.isEmpty &&
      digits.all Char.isDigit
  | _ => false

/-- The words for what is no finite number. -/
def isNotFinite (cs : List Char) : Bool :=
  [".inf", ".Inf", ".INF"].contains (String.ofList (signed cs).2) ||
    [".nan", ".NaN", ".NAN"].contains (String.ofList cs)

/-- Is a plain scalar a number with a decimal point? -/
def isDecimal (cs : List Char) : Bool :=
  isNotFinite cs ||
    let body := (signed cs).2
    let whole := body.takeWhile (· != '.')
    match body.drop whole.length with
    | [] => false
    | _ :: behind =>
      let places := behind.takeWhile isDigitMark
      let rest := behind.drop places.length
      match whole with
      | [] => cs.head? == some '.' && places.head?.any Char.isDigit && isExponent rest
      | c :: _ =>
        c.isDigit &&
          (if whole.all isDigitMark then isExponent rest else rest.isEmpty && isSexagesimal whole)

/-! ## The values of numbers -/

/-- The value of a digit in bases up to 36. -/
def digitIn? (base : Nat) (c : Char) : Option Nat :=
  let value :=
    match Text.digitValue? c with
    | some n => some n
    | none =>
      if 'a' ≤ c && c ≤ 'z' then some (c.toNat - 87)
      else if 'A' ≤ c && c ≤ 'Z' then some (c.toNat - 55)
      else none
  value.filter (· < base)

/-- What follows the letters that may mark a base. -/
def behindMark (base : Nat) (cs : List Char) : List Char :=
  match cs with
  | '0' :: c :: rest =>
    let marks := if base = 2 then "bB" else if base = 8 then "oO" else if base = 16 then "xX" else ""
    if marks.toList.contains c then rest else cs
  | _ => cs

/-- The whole number that a text stands for in a base. -/
def wholeIn (base : Nat) (cs : List Char) : Except Unreadable Int :=
  let (negative, ds) := signed (Text.trimChars cs)
  let ds := behindMark base ds
  match if ds.isEmpty then none else ds.mapM (digitIn? base) with
  | some values =>
    let n : Int := (values.foldl (fun n d => n * base + d) 0 : Nat)
    .ok (if negative then -n else n)
  | none => .error (.whole base (String.ofList cs))

/-- The value of parts in base 60. -/
def sexagesimal (parts : List Int) : Int := parts.foldl (fun n p => n * 60 + p) 0

/-- The whole number that a scalar stands for. -/
def wholeValue (cs : List Char) : Except Unreadable Int := do
  let cs := cs.filter (· != '_')
  let (negative, cs) := signed cs
  let n ←
    match cs with
    | [] => .error .empty
    | ['0'] => pure 0
    | '0' :: 'b' :: ds => wholeIn 2 ds
    | '0' :: 'x' :: ds => wholeIn 16 ds
    | '0' :: _ => wholeIn 8 cs
    | _ =>
      if cs.contains ':' then do
        let parts ← (Text.split ':' cs).mapM (wholeIn 10)
        pure (sexagesimal parts)
      else wholeIn 10 cs
  return if negative then -n else n

/-- The number that a text stands for, with or without a decimal point. -/
def number? (cs : List Char) : Option Double :=
  let (negative, cs) := signed (Text.trimChars cs)
  let word := String.ofList cs
  if word == "inf" || word == "infinity" then some (.infinity negative)
  else if word == "nan" then some .nan
  else
    let whole := cs.takeWhile Text.isDigit
    let rest := cs.drop whole.length
    let (places, rest) :=
      match rest with
      | '.' :: behind =>
        let places := behind.takeWhile Text.isDigit
        (places, behind.drop places.length)
      | _ => ([], rest)
    let power : Option Int :=
      match rest with
      | [] => some 0
      | 'e' :: rest =>
        let (negative, ds) := signed rest
        if ds.isEmpty then none
        else
          (ds.mapM Text.digitValue?).map fun values =>
            let n : Int := (values.foldl (fun n d => n * 10 + d) 0 : Nat)
            if negative then -n else n
      | _ => none
    if whole.isEmpty && places.isEmpty then none
    else
      match power, (whole ++ places).mapM Text.digitValue? with
      | some power, some values =>
        some (Double.ofDecimal negative (values.foldl (fun n d => n * 10 + d) 0)
          (power - places.length))
      | _, _ => none

/-- The number that a text stands for, or what is wrong with it. -/
def decimalOf (cs : List Char) : Except Unreadable Double :=
  match number? cs with
  | some x => .ok x
  | none => .error (.decimal (String.ofList cs))

/-- The sum of parts in base 60, from the last one on; each part counts `base` times. -/
def addParts : (sum : Double) → (base : Nat) → List Double → Double
  | sum, _, [] => sum
  | sum, base, x :: xs => addParts (sum.add (x.mul (.ofInt base))) (base * 60) xs

/-- The number with a decimal point that a scalar stands for. -/
def decimalValue (cs : List Char) : Except Unreadable Double := do
  let cs := (Text.lower (String.ofList (cs.filter (· != '_')))).toList
  if cs.isEmpty then .error .empty
  else
    let (negative, cs) := signed cs
    let x ←
      if String.ofList cs == ".inf" then pure (.infinity false)
      else if String.ofList cs == ".nan" then pure .nan
      else if cs.contains ':' then do
        let parts ← (Text.split ':' cs).mapM decimalOf
        pure (addParts (.zero false) 1 parts.reverse)
      else decimalOf cs
    return if negative then x.neg else x

end Conformity.Yaml

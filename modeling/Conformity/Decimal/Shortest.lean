import Conformity.Decimal.Double

/-!
# The shortest decimal text of a number

A number is written with the fewest digits that read back as the same number, and with those nearest
to it among them. The digits stand in positional notation while the leading digit has an exponent
from -4 to 15, and behind a mantissa and an exponent otherwise.
-/

namespace Conformity.Double

/-- Decimal digits and the exponent of the first of them: `d.ddd · 10 ^ exponent`. -/
structure Digits where
  digits : Nat
  exponent : Int
  deriving DecidableEq, Repr

/-- The exponent of the leading decimal digit of `num / den`, which is not zero. -/
def leadingExponent (num den : Nat) : Int :=
  let guess : Int := (digitCount num : Int) - (digitCount den : Int)
  let reached : Bool :=
    if guess < 0 then decide (den ≤ num * tenTo guess.natAbs)
    else decide (den * tenTo guess.natAbs ≤ num)
  if reached then guess else guess - 1

/-- The numbers between `low / den` and `high / den` round to the number in question, its own value
being `mid / den`; the bounds themselves do if `closed`. -/
structure Interval where
  low : Nat
  mid : Nat
  high : Nat
  den : Nat
  closed : Bool

/-- Everything that rounds to `mantissa · 2 ^ exponent`. -/
def interval (mantissa : Nat) (exponent : Int) : Interval :=
  -- at a power of two the numbers below lie twice as close
  let lowGap := if mantissa = twoTo 52 && -1074 < exponent then 1 else 2
  let closed := mantissa % 2 == 0
  if 0 ≤ exponent then
    let unit := twoTo exponent.natAbs
    ⟨(4 * mantissa - lowGap) * unit, 4 * mantissa * unit, (4 * mantissa + 2) * unit, 4, closed⟩
  else
    ⟨4 * mantissa - lowGap, 4 * mantissa, 4 * mantissa + 2, 4 * twoTo exponent.natAbs, closed⟩

/-- Does `n · 10 ^ place` lie in the interval? -/
def Interval.holds (i : Interval) (n : Nat) (place : Int) : Bool :=
  let value := if place < 0 then n else n * tenTo place.natAbs
  let scale := if place < 0 then tenTo place.natAbs else 1
  if i.closed then i.low * scale ≤ value * i.den && value * i.den ≤ i.high * scale
  else i.low * scale < value * i.den && value * i.den < i.high * scale

/-- The digits of the number in an interval on the grid of step `10 ^ place`, if a point of the grid
rounds to the number. -/
def Interval.onGrid (i : Interval) (place : Int) : Option Nat :=
  let num := if place < 0 then i.mid * tenTo place.natAbs else i.mid
  let den := if place < 0 then i.den else i.den * tenTo place.natAbs
  let below := num / den
  let rest := num % den
  let nearer := if 2 * rest < den || (2 * rest == den && below % 2 == 0) then below else below + 1
  let other := if nearer = below then below + 1 else below
  if i.holds nearer place then some nearer
  else if i.holds other place then some other else none

/-- Tries grids of one more digit each, beginning with step `10 ^ place`. -/
def Interval.search (i : Interval) : (fuel : Nat) → (place : Int) → Option (Nat × Int)
  | 0, _ => none
  | fuel + 1, place =>
    match i.onGrid place with
    | some n => some (n, place)
    | none => i.search fuel (place - 1)

/-- A decimal number without zeros at its end. -/
def dropZeros : (fuel : Nat) → Nat → Int → Nat × Int
  | 0, n, place => (n, place)
  | fuel + 1, n, place => if n % 10 = 0 then dropZeros fuel (n / 10) (place + 1) else (n, place)

/-- The shortest digits that read back as `mantissa · 2 ^ exponent`, which is not zero. -/
def shortest (mantissa : Nat) (exponent : Int) : Digits :=
  let i := interval mantissa exponent
  let place := leadingExponent i.mid i.den
  let (n, place) := (i.search 17 place).getD (0, 0)
  let (n, place) := dropZeros 20 n place
  ⟨n, place + digitCount n - 1⟩

/-- An exponent with its sign and at least two digits. -/
def exponentText (e : Int) : String :=
  let digits := toString e.natAbs
  (if e < 0 then "-" else "+") ++ (if digits.length < 2 then "0" ++ digits else digits)

/-- Zeros. -/
def zeros (n : Nat) : String := String.ofList (List.replicate n '0')

/-- Digits in positional notation, or as a mantissa with an exponent. -/
def Digits.text (d : Digits) : String :=
  let cs := Nat.toDigits 10 d.digits
  let count := cs.length
  if -4 ≤ d.exponent && d.exponent < 16 then
    if d.exponent < 0 then "0." ++ zeros (d.exponent.natAbs - 1) ++ String.ofList cs
    else
      let whole := d.exponent.natAbs + 1
      if count ≤ whole then String.ofList cs ++ zeros (whole - count) ++ ".0"
      else String.ofList (cs.take whole) ++ "." ++ String.ofList (cs.drop whole)
  else
    let fraction := if count ≤ 1 then "" else "." ++ String.ofList (cs.drop 1)
    String.ofList (cs.take 1) ++ fraction ++ "e" ++ exponentText d.exponent

/-- The shortest text of a number; a whole number keeps one decimal place. -/
def text : Double → String
  | nan => "nan"
  | infinity s => if s then "-inf" else "inf"
  | finite s m e =>
    (if s then "-" else "") ++ (if m = 0 then "0.0" else (shortest m e).text)

end Conformity.Double

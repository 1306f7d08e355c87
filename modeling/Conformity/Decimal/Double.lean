/-!
# Binary floating-point numbers

The numbers of the 64-bit binary format, given by sign, mantissa and exponent, so that equality and
order can be decided and computed with. Every exact result is rounded to the nearest number, a tie
going to the even mantissa (`Double.ofRatio`).
-/

namespace Conformity

/-- A number `± mantissa · 2 ^ exponent`, an infinity, or no number at all. Rounding keeps the
mantissa below `2 ^ 53` and as large as the exponent `-1074` allows, so that each number has one
form. -/
inductive Double where
  | nan
  | infinity (negative : Bool)
  | finite (negative : Bool) (mantissa : Nat) (exponent : Int)
  deriving DecidableEq, Repr

namespace Double

/-- The power of two `2 ^ n`. -/
def twoTo (n : Nat) : Nat := Nat.pow 2 n

/-- The power of ten `10 ^ n`. -/
def tenTo (n : Nat) : Nat := Nat.pow 10 n

/-- Zero with a sign. -/
def zero (negative : Bool) : Double := .finite negative 0 (-1074)

/-- `n / d` rounded to the nearest whole number, a tie going to the even one. -/
def roundDiv (n d : Nat) : Nat :=
  let q := n / d
  let r := n % d
  if 2 * r < d then q
  else if d < 2 * r then q + 1
  else if q % 2 = 0 then q else q + 1

/-- The number `num · 2 ^ shift / den` rounded to a whole number. -/
def scaledDiv (num den : Nat) (shift : Int) : Nat :=
  if shift < 0 then roundDiv num (den * twoTo shift.natAbs)
  else roundDiv (num * twoTo shift.natAbs) den

/-- The number nearest to `num / den`. -/
def ofRatio (negative : Bool) (num den : Nat) : Double :=
  if num = 0 then zero negative
  else
    -- the mantissa then has 53 or 54 bits before rounding
    let estimate : Int := (num.log2 : Int) - (den.log2 : Int) - 53
    let exponent := max estimate (-1074)
    let mantissa := scaledDiv num den (-exponent)
    let (mantissa, exponent) :=
      if mantissa < twoTo 53 then (mantissa, exponent)
      else (scaledDiv num den (-(exponent + 1)), exponent + 1)
    let (mantissa, exponent) :=
      if mantissa = twoTo 53 then (twoTo 52, exponent + 1) else (mantissa, exponent)
    if 971 < exponent then .infinity negative else .finite negative mantissa exponent

/-- The number of decimal digits of `n`. -/
def digitCount (n : Nat) : Nat := (Nat.toDigits 10 n).length

/-- The number nearest to `digits · 10 ^ exponent`. An exponent far out of range is settled without
writing the number out. -/
def ofDecimal (negative : Bool) (digits : Nat) (exponent : Int) : Double :=
  let magnitude := (digitCount digits : Int) + exponent
  if digits = 0 || magnitude < -400 then zero negative
  else if 400 < magnitude then .infinity negative
  else if exponent < 0 then ofRatio negative digits (tenTo exponent.natAbs)
  else ofRatio negative (digits * tenTo exponent.natAbs) 1

/-- The number nearest to a whole number. -/
def ofInt (n : Int) : Double := ofRatio (n < 0) n.natAbs 1

/-- Is the sign a minus? -/
def isNegative : Double → Bool
  | nan => false
  | infinity s | finite s _ _ => s

/-- The number with the opposite sign. -/
def neg : Double → Double
  | nan => nan
  | infinity s => infinity !s
  | finite s m e => finite (!s) m e

/-- The numerator of `mantissa · 2 ^ exponent` over the denominator `2 ^ 1074`. -/
def scaled (negative : Bool) (mantissa : Nat) (exponent : Int) : Int :=
  let n : Int := (mantissa * twoTo (exponent + 1074).toNat : Nat)
  if negative then -n else n

/-- The sum rounded to the nearest number. -/
def add : Double → Double → Double
  | nan, _ | _, nan => nan
  | infinity s, infinity t => if s = t then infinity s else nan
  | infinity s, _ | _, infinity s => infinity s
  | finite s m e, finite t n f =>
    let sum := scaled s m e + scaled t n f
    if sum = 0 then zero (s && t) else ofRatio (sum < 0) sum.natAbs (twoTo 1074)

/-- The product rounded to the nearest number. -/
def mul : Double → Double → Double
  | nan, _ | _, nan => nan
  | infinity s, infinity t => infinity (s != t)
  | infinity s, finite t m _ | finite t m _, infinity s => if m = 0 then nan else infinity (s != t)
  | finite s m e, finite t n f =>
    let exponent := e + f
    if exponent < 0 then ofRatio (s != t) (m * n) (twoTo exponent.natAbs)
    else ofRatio (s != t) (m * n * twoTo exponent.natAbs) 1

/-- The whole number that a number is, if it is one. -/
def toInt? : Double → Option Int
  | nan | infinity _ => none
  | finite s m e =>
    let signed (n : Nat) : Int := if s then -(n : Int) else n
    if 0 ≤ e then some (signed (m * twoTo e.natAbs))
    else
      let unit := twoTo e.natAbs
      if m % unit = 0 then some (signed (m / unit)) else none

/-- Do two numbers have the same value? The zeros do, and nothing equals what is no number. -/
def sameValue : Double → Double → Bool
  | nan, _ | _, nan => false
  | finite s m e, finite t n f => (m == 0 && n == 0) || (s == t && m == n && e == f)
  | a, b => a == b

/-- Does a number have a smaller value than another one? -/
def less : Double → Double → Bool
  | nan, _ | _, nan => false
  | infinity s, infinity t => s && !t
  | infinity s, _ => s
  | _, infinity t => !t
  | finite s m e, finite t n f => scaled s m e < scaled t n f

end Double

end Conformity

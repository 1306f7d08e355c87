import Conformity.Text.Utf8

/-!
# Base64

Bytes written with 64 letters, six bits each, in groups of four. Reading passes over characters that
are no letters and ends at the padding that completes a group.
-/

namespace Conformity.Base64

/-- The letter for six bits. -/
def letter (n : Nat) : Char :=
  if n < 26 then Char.ofNat (65 + n)
  else if n < 52 then Char.ofNat (71 + n)
  else if n < 62 then Char.ofNat (n - 4)
  else if n = 62 then '+' else '/'

/-- The six bits of a letter. -/
def value? (c : Char) : Option Nat :=
  if c.isUpper then some (c.toNat - 65)
  else if c.isLower then some (c.toNat - 71)
  else if c.isDigit then some (c.toNat + 4)
  else if c == '+' then some 62
  else if c == '/' then some 63
  else none

/-- The letters of bytes, with padding at the end. -/
def encode : Bytes → List Char
  | [] => []
  | [a] =>
    let n := a.toNat * 16
    [letter (n / 64), letter (n % 64), '=', '=']
  | [a, b] =>
    let n := (a.toNat * 256 + b.toNat) * 4
    [letter (n / 4096), letter (n / 64 % 64), letter (n % 64), '=']
  | a :: b :: c :: rest =>
    let n := (a.toNat * 256 + b.toNat) * 256 + c.toNat
    letter (n / 262144) :: letter (n / 4096 % 64) :: letter (n / 64 % 64) :: letter (n % 64) ::
      encode rest

/-- Reads on, `count` letters of the current group being read and `bits` the value of those among
them that are not yet in a byte, with `pads` padding characters right before. -/
def decodeFrom (count bits pads : Nat) : List Char → Option Bytes
  | [] => if count = 0 then some [] else none
  | c :: rest =>
    if c == '=' then
      if 2 ≤ count then
        if 4 ≤ count + pads + 1 then some [] else decodeFrom count bits (pads + 1) rest
      else decodeFrom count bits pads rest
    else
      match value? c with
      | none => decodeFrom count bits pads rest
      | some n =>
        match count with
        | 0 => decodeFrom 1 n 0 rest
        | 1 => (decodeFrom 2 (n % 16) 0 rest).map ((bits * 4 + n / 16).toUInt8 :: ·)
        | 2 => (decodeFrom 3 (n % 4) 0 rest).map ((bits * 16 + n / 4).toUInt8 :: ·)
        | _ => (decodeFrom 0 0 0 rest).map ((bits * 64 + n).toUInt8 :: ·)

/-- The bytes that letters stand for; nothing if the last group is not complete. -/
def decode? (cs : List Char) : Option Bytes := decodeFrom 0 0 0 cs

end Conformity.Base64

/-!
# UTF-8 texts

Bytes are read as UTF-8 in two ways: strictly, where any malformed byte refuses the text, and
leniently, where each maximal beginning of a malformed sequence becomes one replacement character.
-/

namespace Conformity

/-- The content of a file or a message. -/
abbrev Bytes := List UInt8

namespace Text

/-- What stands at the front of a byte sequence. -/
inductive Lead where
  /-- A character of the given length. -/
  | char (c : Char) (size : Nat)
  /-- A malformed sequence of which this many bytes form one fault. -/
  | fault (size : Nat)

/-- Is `b` between the two bounds? -/
def within (low high : Nat) (b : UInt8) : Bool := low ≤ b.toNat && b.toNat ≤ high

/-- The six low bits of a continuation byte. -/
def tailBits (b : UInt8) : Nat := b.toNat - 0x80

/-- A sequence of three bytes whose second byte lies between the bounds. -/
def lead3 (low high : Nat) (a : UInt8) (rest : Bytes) : Lead :=
  match rest with
  | b :: rest =>
    if within low high b then
      match rest with
      | c :: _ =>
        if within 0x80 0xBF c then
          .char (Char.ofNat ((a.toNat - 0xE0) * 4096 + tailBits b * 64 + tailBits c)) 3
        else .fault 2
      | [] => .fault 2
    else .fault 1
  | [] => .fault 1

/-- A sequence of four bytes whose second byte lies between the bounds. -/
def lead4 (low high : Nat) (a : UInt8) (rest : Bytes) : Lead :=
  match rest with
  | b :: rest =>
    if within low high b then
      match rest with
      | c :: rest =>
        if within 0x80 0xBF c then
          match rest with
          | d :: _ =>
            if within 0x80 0xBF d then
              .char (Char.ofNat
                ((a.toNat - 0xF0) * 262144 + tailBits b * 4096 + tailBits c * 64 + tailBits d)) 4
            else .fault 3
          | [] => .fault 3
        else .fault 2
      | [] => .fault 2
    else .fault 1
  | [] => .fault 1

/-- Reads the character or the fault that starts with byte `a`. -/
def lead (a : UInt8) (rest : Bytes) : Lead :=
  let n := a.toNat
  if n < 0x80 then .char (Char.ofNat n) 1
  else if within 0xC2 0xDF a then
    match rest with
    | b :: _ =>
      if within 0x80 0xBF b then .char (Char.ofNat ((n - 0xC0) * 64 + tailBits b)) 2 else .fault 1
    | [] => .fault 1
  else if n == 0xE0 then lead3 0xA0 0xBF a rest
  else if n == 0xED then lead3 0x80 0x9F a rest
  else if within 0xE1 0xEF a then lead3 0x80 0xBF a rest
  else if n == 0xF0 then lead4 0x90 0xBF a rest
  else if n == 0xF4 then lead4 0x80 0x8F a rest
  else if within 0xF1 0xF3 a then lead4 0x80 0xBF a rest
  else .fault 1

/-- The replacement character that stands for a fault. -/
def replacementChar : Char := Char.ofNat 0xFFFD

/-- Reads bytes as UTF-8, skipping first the bytes that belong to the character or fault before. -/
def decodeLenientFrom : (skip : Nat) → Bytes → List Char
  | _, [] => []
  | skip + 1, _ :: rest => decodeLenientFrom skip rest
  | 0, a :: rest =>
    match lead a rest with
    | .char c size => c :: decodeLenientFrom (size - 1) rest
    | .fault size => replacementChar :: decodeLenientFrom (size - 1) rest

/-- Reads bytes as UTF-8, a replacement character standing for each fault. -/
def decodeLenient (bs : Bytes) : List Char := decodeLenientFrom 0 bs

/-- Reads bytes as UTF-8 up to the first fault, skipping first the bytes that belong to the
character before. -/
def decodeFrom : (skip : Nat) → Bytes → Option (List Char)
  | _, [] => some []
  | skip + 1, _ :: rest => decodeFrom skip rest
  | 0, a :: rest =>
    match lead a rest with
    | .char c size => (decodeFrom (size - 1) rest).map (c :: ·)
    | .fault _ => none

/-- Reads bytes as UTF-8; nothing if a byte is malformed. -/
def decode? (bs : Bytes) : Option (List Char) := decodeFrom 0 bs

/-- The UTF-8 bytes of one character. -/
def encodeChar (c : Char) : Bytes :=
  let n := c.toNat
  if n < 0x80 then [n.toUInt8]
  else if n < 0x800 then [(0xC0 + n / 64).toUInt8, (0x80 + n % 64).toUInt8]
  else if n < 0x10000 then
    [(0xE0 + n / 4096).toUInt8, (0x80 + n / 64 % 64).toUInt8, (0x80 + n % 64).toUInt8]
  else
    [(0xF0 + n / 262144).toUInt8, (0x80 + n / 4096 % 64).toUInt8, (0x80 + n / 64 % 64).toUInt8,
     (0x80 + n % 64).toUInt8]

/-- The UTF-8 bytes of a text. -/
def encode (cs : List Char) : Bytes := cs.flatMap encodeChar

end Text

/-- The UTF-8 bytes of a text. -/
def bytesOf (s : String) : Bytes := s.toUTF8.data.toList

end Conformity

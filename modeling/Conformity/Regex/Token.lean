import Conformity.Regex.Fault

/-!
# Tokens of a pattern

A pattern is read as characters, an escaped character being one token with its backslash. A backslash
that ends the pattern escapes nothing; the fault it stands for is reported as soon as a reader has
consumed the token before it, and so before any fault found later.
-/

namespace Conformity.Regex

/-- A character of a pattern, or an escaped one, with the position where it starts. -/
inductive Token where
  | plain (pos : Nat) (c : Char)
  | escaped (pos : Nat) (c : Char)
  /-- A backslash at the end of the pattern. -/
  | dangling (pos : Nat)
  deriving DecidableEq, Repr

namespace Token

/-- Where a token starts. -/
def pos : Token → Nat
  | plain p _ | escaped p _ | dangling p => p

/-- The characters of a token. -/
def text : Token → List Char
  | plain _ c => [c]
  | escaped _ c => ['\\', c]
  | dangling _ => ['\\']

/-- Is the token the character `c` without a backslash? -/
def is (c : Char) : Token → Bool
  | plain _ d => d == c
  | _ => false

/-- The tokens of a pattern whose first character has position `p`. -/
def scan (p : Nat) : List Char → List Token
  | [] => []
  | ['\\'] => [dangling p]
  | '\\' :: c :: cs => escaped p c :: scan (p + 2) cs
  | c :: cs => plain p c :: scan (p + 1) cs

end Token

/-- The tokens still to be read, none of them a dangling backslash in front. -/
abbrev Rest := List Token

/-- Hands on the tokens behind a consumed one, unless a dangling backslash comes next. -/
def ready : List Token → Except Fault Rest
  | .dangling p :: _ => .error (.malformed .escapeAtEnd (some p))
  | ts => .ok ts

/-- The position in front of the next token, `total` being the length of the pattern. -/
def Rest.tell (total : Nat) : Rest → Nat
  | [] => total
  | t :: _ => t.pos

/-- A fault of the pattern at a position. -/
def faultAt (cause : Cause) (p : Nat) : Fault := .malformed cause (some p)

/-- Consumes the next token if it is the character `c`. -/
def accept (c : Char) : Rest → Except Fault (Bool × Rest)
  | t :: ts => if t.is c then do return (true, ← ready ts) else .ok (false, t :: ts)
  | [] => .ok (false, [])

/-- Consumes at most `n` characters of a class. -/
def acceptWhile (p : Char → Bool) : (n : Nat) → Rest → Except Fault (List Char × Rest)
  | n + 1, .plain q c :: ts =>
    if p c then do
      let (cs, rest) ← acceptWhile p n (← ready ts)
      return (c :: cs, rest)
    else .ok ([], .plain q c :: ts)
  | _, ts => .ok ([], ts)

/-- Reads a name up to its terminator. `start` is where the name starts and `read` what was read of it
so far, last character first; `what` is the kind of name. -/
def readName (total start : Nat) (terminator : Char) (what : String) (read : List Char) :
    List Token → Except Fault (List Char × Rest)
  | [] =>
    if read.isEmpty then .error (faultAt (.missing what) total)
    else .error (faultAt (.unterminatedName terminator) start)
  | t :: ts =>
    match ready ts with
    | .error e => .error e
    | .ok rest =>
      if t.is terminator then
        if read.isEmpty then .error (faultAt (.missing what) t.pos) else .ok (read.reverse, rest)
      else readName total start terminator what (t.text.reverse ++ read) ts

end Conformity.Regex

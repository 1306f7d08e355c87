import Conformity.Text.Cut

/-!
# Resource identifiers

The form of uniform resource identifiers, with a scheme or relative to another one.
-/

namespace Conformity.Text.Uri

/-- A character that stands for itself anywhere in an identifier. -/
def isPlain (c : Char) : Bool := c.isAlphanum || "-._~!$&'()*+,;=".toList.contains c

/-- A digit to the base of sixteen. -/
def isHexDigit (c : Char) : Bool :=
  c.isDigit || ('a' ≤ c && c ≤ 'f') || ('A' ≤ c && c ≤ 'F')

/-- Are all characters plain, of the extra ones, or written by code behind a percent sign? -/
def isMadeOf (extra : List Char) : List Char → Bool
  | [] => true
  | '%' :: a :: b :: cs => isHexDigit a && isHexDigit b && isMadeOf extra cs
  | c :: cs => (isPlain c || extra.contains c) && isMadeOf extra cs

/-- Is this a host? -/
def isHost (cs : List Char) : Bool :=
  match cs with
  | '[' :: cs => cs.getLast? == some ']'
  | _ => isMadeOf [] cs

/-- Is this a host with a port, if any? -/
def isServer (cs : List Char) : Bool :=
  let port := (cs.reverse.takeWhile Char.isDigit).reverse
  let host := cs.take (cs.length - port.length)
  isHost cs || (!port.isEmpty && host.getLast? == some ':' && isHost host.dropLast)

/-- Is this an authority? -/
def isAuthority (cs : List Char) : Bool :=
  if cs.contains '@' then
    isMadeOf [':'] (cs.takeWhile (· != '@')) && isServer ((cs.dropWhile (· != '@')).drop 1)
  else isServer cs

/-- Is this a path, behind an authority if there is one? -/
def isHierarchy (cs : List Char) : Bool :=
  match cs with
  | '/' :: '/' :: rest =>
    isAuthority (rest.takeWhile (· != '/')) && isMadeOf [':', '@', '/'] (rest.dropWhile (· != '/'))
  | _ => isMadeOf [':', '@', '/'] cs

/-- What stands behind the scheme, if there is one. -/
def scheme? (cs : List Char) : Option (List Char) :=
  let scheme := cs.takeWhile fun c => c.isAlphanum || "+-.".toList.contains c
  match cs.drop scheme.length with
  | ':' :: rest => if (scheme.head?).any Char.isAlpha then some rest else none
  | _ => none

/-- The parts of an identifier: path, query and fragment. -/
def parts (cs : List Char) : List Char × List Char × List Char :=
  let body := cs.takeWhile (· != '#')
  (body.takeWhile (· != '?'), (body.dropWhile (· != '?')).drop 1, (cs.dropWhile (· != '#')).drop 1)

/-- Is this an identifier, relative or not? -/
def isUri (cs : List Char) : Bool :=
  let (path, query, fragment) := parts cs
  isMadeOf [':', '@', '/', '?'] query && isMadeOf [':', '@', '/', '?', '[', ']'] fragment &&
    match scheme? path with
    | some rest => isHierarchy rest
    | none => isHierarchy path && !(path.takeWhile (· != '/')).contains ':'

/-- Has an identifier a scheme? -/
def isAbsolute (cs : List Char) : Bool := (scheme? (parts cs).1).isSome

end Conformity.Text.Uri

import Conformity.Text.Utf8
import Conformity.Text.Cut

/-!
# Comments

Text that becomes a comment must not end it early. `commentSafe` leaves no two hyphens in a row and
none at the end; `withLeadingComment` puts a comment in front of a document, behind its declaration if
it has one, replacing pairs of hyphens by single ones.
-/

namespace Conformity

/-- A text in which pairs of hyphens are replaced by single ones, over and over, until there are none. -/
def singleHyphens (cs : List Char) : List Char :=
  if Text.hasPart "--".toList cs then singleHyphens (Text.replace "--".toList "-".toList cs) else cs
termination_by cs.length
-- a pass that finds a pair makes the text shorter
decreasing_by exact Text.length_replace_lt (by decide) ‹_›

/-- A text that can stand in a comment. -/
def commentSafe (cs : List Char) : List Char :=
  ((singleHyphens cs).reverse.dropWhile (· == '-')).reverse

/-- The bytes before an occurrence of a byte sequence and those from it on. -/
def splitAtBytes (part : Bytes) : Bytes → Option (Bytes × Bytes)
  | [] => if part.isEmpty then some ([], []) else none
  | b :: bs =>
    if part.isPrefixOf (b :: bs) then some ([], b :: bs)
    else (splitAtBytes part bs).map fun p => (b :: p.1, p.2)

/-- A comment on a line of its own. -/
def commentLine (comment : String) : Bytes :=
  bytesOf "<!-- " ++ Text.encode (Text.replace "--".toList "-".toList comment.toList) ++
    bytesOf " -->\n"

/-- A document with a comment in front. -/
def withLeadingComment (content : Bytes) (comment : String) : Bytes :=
  let closing := bytesOf "?>"
  match if (bytesOf "<?xml").isPrefixOf content then splitAtBytes closing content else none with
  | some (declaration, rest) =>
    declaration ++ closing ++ bytesOf "\n" ++ commentLine comment ++
      (rest.drop closing.length).dropWhile fun b => b == 0x0D || b == 0x0A
  | none => commentLine comment ++ content

end Conformity

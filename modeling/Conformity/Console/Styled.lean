import Conformity.Text.Blank
import Conformity.Text.Lowercase

/-!
# Styled text

Text for a terminal holds tags in square brackets that begin and end styles. Here styles are not shown:
what counts is the text without its tags. A tag that ends a style must end one that is open. A
backslash in front of a tag makes it plain text, and two backslashes there stand for one.
-/

namespace Conformity.Console

/-- A tag; parameters follow an equals sign. -/
structure Tag where
  name : List Char
  parameters : Option (List Char) := none
  deriving DecidableEq, Repr

namespace Tag

/-- The tag between its brackets. -/
def text (t : Tag) : String :=
  String.ofList ('[' :: t.name ++
    ((t.parameters.map fun p => '=' :: p).getD []) ++ [']'])

/-- The tag with a content. -/
def ofContent (content : List Char) : Tag :=
  ⟨content.takeWhile (· != '='),
    match content.dropWhile (· != '=') with
    | _ :: parameters => some parameters
    | [] => none⟩

/-- Can a tag begin with a character? -/
def isStart (c : Char) : Bool := ('a' ≤ c && c ≤ 'z') || c == '#' || c == '/' || c == '@'

/-- What stands before the next closing bracket, if no opening one comes first. -/
def upToBracket : List Char → Option (List Char)
  | [] => none
  | c :: cs => if c == ']' then some [] else if c == '[' then none else (upToBracket cs).map (c :: ·)

/-- The content of the tag at the front of a text. -/
def content? : List Char → Option (List Char)
  | '[' :: c :: cs => if isStart c then (upToBracket cs).map (c :: ·) else none
  | _ => none

end Tag

/-- A closing tag that has no open one to close. -/
inductive TagFault where
  /-- No style is open. -/
  | nothingOpen (position : Nat)
  /-- The style is not open. -/
  | notOpen (tag : String) (position : Nat)
  deriving DecidableEq, Repr

/-- The wording of a fault. -/
def TagFault.message : TagFault → String
  | nothingOpen position =>
    "closing tag '[/]' at position " ++ toString position ++ " has nothing to close"
  | notOpen tag position =>
    "closing tag '" ++ tag ++ "' at position " ++ toString position ++
      " doesn't match any open tag"

/-- A piece of styled text. -/
inductive Piece where
  | text (cs : List Char)
  | tag (position : Nat) (t : Tag)
  deriving DecidableEq, Repr

/-- The pieces at the front of a text that begins with a tag, which may have backslashes in front of
it, and the number of characters that they take up. -/
def taggedPieces? (position : Nat) (cs : List Char) : Option (List Piece × Nat) :=
  let slashes := (cs.takeWhile (· == '\\')).length
  (Tag.content? (cs.drop slashes)).map fun content =>
    let escaped := Piece.text (List.replicate (slashes / 2) '\\')
    let tag :=
      if slashes % 2 = 1 then Piece.text ('[' :: content ++ [']'])
      else Piece.tag (position + slashes) (Tag.ofContent content)
    ([escaped, tag], slashes + content.length + 2)

/-- The pieces of a text from a position on; the first `skip` characters belong to pieces already
read. -/
def piecesFrom (position : Nat) : (skip : Nat) → List Char → List Piece
  | _, [] => []
  | skip + 1, _ :: cs => piecesFrom (position + 1) skip cs
  | 0, c :: cs =>
    match taggedPieces? position (c :: cs) with
    | some (pieces, length) => pieces ++ piecesFrom (position + 1) (length - 1) cs
    | none =>
      let text := if c == '\\' && cs.head? == some '[' then [] else [c]
      .text text :: piecesFrom (position + 1) 0 cs

/-- The short names of styles. -/
def shortStyles : List (String × String) :=
  [("b", "bold"), ("d", "dim"), ("i", "italic"), ("u", "underline"), ("r", "reverse"),
    ("c", "conceal"), ("s", "strike"), ("uu", "underline2"), ("o", "overline")]

/-- The name of a style, told in full and in small letters. -/
def styleName (name : List Char) : String :=
  let name := Text.lower (Text.trim (String.ofList name))
  (shortStyles.lookup name).getD name

/-- The text of pieces without tags, `styles` being open, the innermost one first. -/
def withoutTags (styles : List String) : List Piece → Except TagFault (List Char)
  | [] => .ok []
  | .text cs :: pieces => (withoutTags styles pieces).map (cs ++ ·)
  | .tag position t :: pieces =>
    match t.name with
    | '/' :: name =>
      if Text.isBlankText (String.ofList name) then
        match styles with
        | _ :: styles => withoutTags styles pieces
        | [] => .error (.nothingOpen position)
      else if styles.contains (styleName name) then
        withoutTags (styles.erase (styleName name)) pieces
      else .error (.notOpen t.text position)
    | name => withoutTags (styleName name :: styles) pieces

/-- The characters that a terminal would act upon. -/
def isControl (c : Char) : Bool := [7, 8, 11, 12, 13].contains c.toNat

/-- A styled text as it is seen: without tags and without characters that control a terminal. -/
def seen (s : String) : Except TagFault (List Char) :=
  (withoutTags [] (piecesFrom 0 0 s.toList)).map fun cs => cs.filter fun c => !isControl c

end Conformity.Console

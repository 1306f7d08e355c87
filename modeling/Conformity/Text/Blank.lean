import Conformity.Text.Ranges

/-!
# Blanks: trimming and splitting into words

A blank is one of the white-space characters of Unicode, together with the four information
separators. Trimming removes blanks at both ends of a text; its words are the maximal runs without a
blank.
-/

namespace Conformity.Text

/-- The code ranges of the blanks. -/
def blankRanges : List (Nat × Nat) :=
  [(0x9, 0xD), (0x1C, 0x20), (0x85, 0x85), (0xA0, 0xA0), (0x1680, 0x1680), (0x2000, 0x200A),
   (0x2028, 0x2029), (0x202F, 0x202F), (0x205F, 0x205F), (0x3000, 0x3000)]

/-- A white-space character or an information separator. -/
def isBlank (c : Char) : Bool := inRanges c.toNat blankRanges

/-- Drops the blanks at the front. -/
def trimStart (cs : List Char) : List Char := cs.dropWhile isBlank

/-- Drops the blanks at the end. -/
def trimEnd (cs : List Char) : List Char := (cs.reverse.dropWhile isBlank).reverse

/-- Drops the blanks at both ends. -/
def trimChars (cs : List Char) : List Char := trimEnd (trimStart cs)

/-- Drops the blanks at both ends. -/
def trim (s : String) : String := String.ofList (trimChars s.toList)

/-- A text without any character but blanks. -/
def isBlankText (s : String) : Bool := s.toList.all isBlank

/-- The words of a text, `word` being the current one read so far, last character first. -/
def wordsFrom (word : List Char) : List Char → List (List Char)
  | [] => if word.isEmpty then [] else [word.reverse]
  | c :: rest =>
    if isBlank c then
      if word.isEmpty then wordsFrom [] rest else word.reverse :: wordsFrom [] rest
    else wordsFrom (c :: word) rest

/-- The maximal runs of characters that are not blank. -/
def words (s : String) : List String := (wordsFrom [] s.toList).map String.ofList

/-- The words of a text with one space between them. -/
def squeeze (s : String) : String := " ".intercalate (words s)

end Conformity.Text

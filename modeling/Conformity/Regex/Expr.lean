import Conformity.Text.Lowercase
import Conformity.Text.Numeral
import Conformity.Text.Blank

/-!
# Regular expressions

The abstract form of a pattern. Everything that an option can change (whether case counts, whether a
dot takes a line break, …) is settled in the nodes, so an expression means the same wherever it
stands. Characters are kept by their codes, since a pattern can also name codes that no text holds.
-/

namespace Conformity.Regex

/-- Which characters count as equal. -/
inductive CaseRule where
  /-- Only a character itself. -/
  | exact
  /-- The two cases of an ASCII letter. -/
  | ascii
  /-- All forms of a letter that differ in case. -/
  | unicode
  deriving DecidableEq, Repr

/-- The codes of the characters that count as equal to `c`. -/
def CaseRule.mates (rule : CaseRule) (c : Char) : List Nat :=
  match rule with
  | .exact => [c.toNat]
  | .ascii => [c.toNat, c.toLower.toNat, c.toUpper.toNat]
  | .unicode => c.toNat :: Text.caseMates c

/-- The named classes of characters. -/
inductive Category where
  | digit
  | space
  | word
  deriving DecidableEq, Repr

/-- Does a character belong to a class, ASCII characters only or all? -/
def Category.contains (ascii : Bool) (c : Char) : Category → Bool
  | .digit => if ascii then c.isDigit else Text.isDigit c
  | .space => if ascii then c == ' ' || (9 ≤ c.toNat && c.toNat ≤ 13) else Text.isBlank c
  | .word => if ascii then c.isAlphanum || c == '_' else Text.isWordChar c

/-- A member of a set between brackets. -/
inductive SetItem where
  | one (code : Nat)
  | range (lo hi : Nat)
  | category (kind : Category) (negated : Bool)
  deriving DecidableEq, Repr

/-- Does a set member take `c`, `mates` being the codes of the characters equal to it? -/
def SetItem.takes (ascii : Bool) (c : Char) (mates : List Nat) : SetItem → Bool
  | .one code => mates.contains code
  | .range lo hi => mates.any fun n => decide (lo ≤ n) && decide (n ≤ hi)
  | .category kind negated => kind.contains ascii c != negated

/-- A place that a match may have to stand at. -/
inductive Anchor where
  | textStart
  | lineStart
  /-- The end of the text, or before a line break that ends it. -/
  | lastLineEnd
  | lineEnd
  | textEnd
  | wordBoundary (ascii : Bool)
  | noWordBoundary (ascii : Bool)
  deriving DecidableEq, Repr

/-- What a repetition prefers. -/
inductive Greed where
  /-- As many rounds as possible. -/
  | greedy
  /-- As few rounds as possible. -/
  | lazy
  /-- As many rounds as possible, none of which is given back. -/
  | possessive
  deriving DecidableEq, Repr

/-- A regular expression. -/
inductive Expr where
  | char (rule : CaseRule) (code : Nat)
  | set (rule : CaseRule) (ascii negated : Bool) (items : List SetItem)
  | any (lineBreaks : Bool)
  | anchor (place : Anchor)
  | seq (items : List Expr)
  | alt (branches : List Expr)
  | capture (group : Nat) (body : Expr)
  | atomic (body : Expr)
  | repeated (greed : Greed) (min : Nat) (max : Option Nat) (body : Expr)
  /-- A look at what follows. -/
  | ahead (negated : Bool) (body : Expr)
  /-- A look at what came before; the least and the greatest number of characters the body takes. -/
  | behind (negated : Bool) (width : Nat × Nat) (body : Expr)
  /-- The text that a group took. -/
  | backref (rule : CaseRule) (group : Nat)
  /-- One of two bodies, by whether a group took part. -/
  | cond (group : Nat) (yes no : Expr)
  deriving Repr

/-- More characters than any text has. -/
def unboundedWidth : Nat := 0x10000000000000000

/-- The least and the greatest number of characters that a set of widths allows together. -/
def cappedWidth (w : Nat × Nat) : Nat × Nat := (min w.1 unboundedWidth, min w.2 unboundedWidth)

mutual

/-- The least and the greatest number of characters an expression takes; `widths` gives those of the
closed groups. -/
def Expr.width (widths : List (Nat × Nat × Nat)) : Expr → Nat × Nat
  | .char .. | .set .. | .any _ => (1, 1)
  | .anchor _ | .ahead .. | .behind .. => (0, 0)
  | .seq items => cappedWidth (Expr.seqWidth widths items)
  | .alt branches => cappedWidth (Expr.altWidth widths branches)
  | .capture _ body | .atomic body => body.width widths
  | .repeated _ least most body =>
    let w := body.width widths
    (w.1 * least,
      match most with
      | none => if w.2 == 0 then 0 else unboundedWidth
      | some n => w.2 * n)
  | .backref _ group => (widths.lookup group).getD (0, 0)
  | .cond _ yes no =>
    let a := yes.width widths
    let b := no.width widths
    (min a.1 b.1, max a.2 b.2)

/-- The widths of consecutive expressions added up. -/
def Expr.seqWidth (widths : List (Nat × Nat × Nat)) : List Expr → Nat × Nat
  | [] => (0, 0)
  | e :: es =>
    let a := e.width widths
    let b := Expr.seqWidth widths es
    (a.1 + b.1, a.2 + b.2)

/-- The widths that any of the branches has. -/
def Expr.altWidth (widths : List (Nat × Nat × Nat)) : List Expr → Nat × Nat
  | [] => (unboundedWidth, 0)
  | e :: es =>
    let a := e.width widths
    let b := Expr.altWidth widths es
    (min a.1 b.1, max a.2 b.2)

end

end Conformity.Regex

import Conformity.Text.Quoted

/-!
# What can be wrong with a pattern

A pattern that is no regular expression has a cause and, nearly always, a position. Two further
refusals are not about one place: a repetition number too large to count, and options that exclude
each other.
-/

namespace Conformity.Regex

/-- Why a pattern is refused. Characters are given as they stand in the pattern. -/
inductive Cause where
  | nothingToRepeat
  | multipleRepeat
  | minAboveMax
  | unclosedGroup
  | unclosedComment
  | unclosedSet
  | unopenedGroup
  | badRange (low high : List Char)
  | badEscape (escape : List Char)
  | escapeAtEnd
  | incompleteEscape (escape : List Char)
  | octalTooLarge (escape : List Char)
  | unknownCharName (name : List Char)
  | missing (what : String)
  | unterminatedName (terminator : Char)
  | invalidGroup (number : Nat)
  | openGroup
  | lookBehindGroup
  | unknownGroup (name : List Char)
  | badGroupNumber
  | badGroupName (name : List Char)
  | duplicateGroup (name : List Char) (number earlier : Nat)
  | tooManyBranches
  | variableLookBehind
  | wideLookBehind
  | unknownExtension (text : List Char)
  | unexpectedEnd
  | unknownFlag
  | lateGlobalFlags
  | localeFlag
  | incompatibleFlags
  | typeFlagOff
  | globalFlagOn
  | globalFlagOff
  | flagOnAndOff
  | templateRepeat (kind : String)

/-- A text as it is shown between quotes. -/
def shown (cs : List Char) : String := Text.quoted (String.ofList cs)

/-- The wording of a cause. -/
def Cause.text : Cause → String
  | .nothingToRepeat => "nothing to repeat"
  | .multipleRepeat => "multiple repeat"
  | .minAboveMax => "min repeat greater than max repeat"
  | .unclosedGroup => "missing ), unterminated subpattern"
  | .unclosedComment => "missing ), unterminated comment"
  | .unclosedSet => "unterminated character set"
  | .unopenedGroup => "unbalanced parenthesis"
  | .badRange a b => "bad character range " ++ String.ofList a ++ "-" ++ String.ofList b
  | .badEscape e => "bad escape " ++ String.ofList e
  | .escapeAtEnd => "bad escape (end of pattern)"
  | .incompleteEscape e => "incomplete escape " ++ String.ofList e
  | .octalTooLarge e => "octal escape value " ++ String.ofList e ++ " outside of range 0-0o377"
  | .unknownCharName n => "undefined character name " ++ shown n
  | .missing what => "missing " ++ what
  | .unterminatedName t => "missing " ++ String.ofList [t] ++ ", unterminated name"
  | .invalidGroup n => "invalid group reference " ++ toString n
  | .openGroup => "cannot refer to an open group"
  | .lookBehindGroup => "cannot refer to group defined in the same lookbehind subpattern"
  | .unknownGroup n => "unknown group name " ++ shown n
  | .badGroupNumber => "bad group number"
  | .badGroupName n => "bad character in group name " ++ shown n
  | .duplicateGroup n g was =>
    "redefinition of group name " ++ shown n ++ " as group " ++ toString g ++ "; was group " ++
      toString was
  | .tooManyBranches => "conditional backref with more than two branches"
  | .variableLookBehind => "look-behind requires fixed-width pattern"
  | .wideLookBehind => "looks too much behind"
  | .unknownExtension t => "unknown extension ?" ++ String.ofList t
  | .unexpectedEnd => "unexpected end of pattern"
  | .unknownFlag => "unknown flag"
  | .lateGlobalFlags => "global flags not at the start of the expression"
  | .localeFlag => "bad inline flags: cannot use 'L' flag with a str pattern"
  | .incompatibleFlags => "bad inline flags: flags 'a', 'u' and 'L' are incompatible"
  | .typeFlagOff => "bad inline flags: cannot turn off flags 'a', 'u' and 'L'"
  | .globalFlagOn => "bad inline flags: cannot turn on global flag"
  | .globalFlagOff => "bad inline flags: cannot turn off global flag"
  | .flagOnAndOff => "bad inline flags: flag turned on and off"
  | .templateRepeat kind => "internal: unsupported template operator " ++ kind

/-- A refusal of a pattern. -/
inductive Fault where
  /-- The pattern is no regular expression. -/
  | malformed (cause : Cause) (position : Option Nat)
  /-- A repetition number is too large. -/
  | repeatTooLarge
  /-- Two global options exclude each other. -/
  | flagConflict

/-- The number of line breaks in a text. -/
def lineBreaks (cs : List Char) : Nat := cs.count '\n'

/-- The distance from the last line break before position `at_` (or from just before the text). -/
def columnOf (pattern : List Char) (at_ : Nat) : Nat :=
  ((pattern.take at_).reverse.takeWhile (· != '\n')).length + 1

/-- The wording of a refusal of `pattern`: the cause, the position, and in a pattern of several lines
also line and column. -/
def Fault.message (pattern : List Char) : Fault → String
  | .malformed cause none => cause.text
  | .malformed cause (some p) =>
    let place := cause.text ++ " at position " ++ toString p
    if pattern.contains '\n' then
      place ++ " (line " ++ toString (lineBreaks (pattern.take p) + 1) ++ ", column " ++
        toString (columnOf pattern p) ++ ")"
    else place
  | .repeatTooLarge => "the repetition number is too large"
  | .flagConflict => "ASCII and UNICODE flags are incompatible"

end Conformity.Regex

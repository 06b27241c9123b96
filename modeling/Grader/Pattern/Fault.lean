import Grader.Failure

/-!
What can be wrong with the text of a pattern, where, and how it is reported.
-/

namespace Grader.Pattern

/-- What is wrong with the text of a pattern. -/
inductive Cause where
  | danglingEscape
  | badEscape (escape : String)
  | incompleteEscape (escape : String)
  | octalEscape (escape : String)
  | missing (what : String)
  | unterminatedName (terminator : Char)
  | unknownCharacter (name : String)
  | unterminatedSet
  | badRange (low high : String)
  | nothingToRepeat
  | multipleRepeat
  | repeatOrder
  | unexpectedEnd
  | unknownExtension (text : String)
  | unterminatedComment
  | unterminatedGroup
  | unbalanced
  | badGroupName (name : String)
  | unknownGroupName (name : String)
  | badGroupNumber
  | unknownGroup (number : Nat)
  | openGroup
  | groupBehind
  | groupRedefined (name : String) (now before : Nat)
  | tooManyBranches
  | lateFlags
  | unknownFlag
  | localeFlag
  | typeFlags
  | typeFlagsOff
  | globalFlagOn
  | globalFlagOff
  | flagOnAndOff
  deriving Repr

def Cause.message : Cause → String
  | danglingEscape => "bad escape (end of pattern)"
  | badEscape e => "bad escape " ++ e
  | incompleteEscape e => "incomplete escape " ++ e
  | octalEscape e => "octal escape value " ++ e ++ " outside of range 0-0o377"
  | missing what => "missing " ++ what
  | unterminatedName c => "missing " ++ c.toString ++ ", unterminated name"
  | unknownCharacter n => "undefined character name " ++ Text.Quoted.text n
  | unterminatedSet => "unterminated character set"
  | badRange low high => "bad character range " ++ low ++ "-" ++ high
  | nothingToRepeat => "nothing to repeat"
  | multipleRepeat => "multiple repeat"
  | repeatOrder => "min repeat greater than max repeat"
  | unexpectedEnd => "unexpected end of pattern"
  | unknownExtension t => "unknown extension ?" ++ t
  | unterminatedComment => "missing ), unterminated comment"
  | unterminatedGroup => "missing ), unterminated subpattern"
  | unbalanced => "unbalanced parenthesis"
  | badGroupName n => "bad character in group name " ++ Text.Quoted.text n
  | unknownGroupName n => "unknown group name " ++ Text.Quoted.text n
  | badGroupNumber => "bad group number"
  | unknownGroup n => s!"invalid group reference {n}"
  | openGroup => "cannot refer to an open group"
  | groupBehind => "cannot refer to group defined in the same lookbehind subpattern"
  | groupRedefined n now before =>
    "redefinition of group name " ++ Text.Quoted.text n ++ s!" as group {now}; was group {before}"
  | tooManyBranches => "conditional backref with more than two branches"
  | lateFlags => "global flags not at the start of the expression"
  | unknownFlag => "unknown flag"
  | localeFlag => "bad inline flags: cannot use 'L' flag with a str pattern"
  | typeFlags => "bad inline flags: flags 'a', 'u' and 'L' are incompatible"
  | typeFlagsOff => "bad inline flags: cannot turn off flags 'a', 'u' and 'L'"
  | globalFlagOn => "bad inline flags: cannot turn on global flag"
  | globalFlagOff => "bad inline flags: cannot turn off global flag"
  | flagOnAndOff => "bad inline flags: flag turned on and off"

/-- Why the text of a pattern is refused. -/
inductive Fault where
  | syntaxError (cause : Cause) (place : Nat)
  | repetition
  | flagsConflict
  deriving Repr

/-- Where a place is, line and column, in a text of several lines. -/
def placeText (pattern : List Char) (place : Nat) : String :=
  if pattern.contains '\n' then
    let before := pattern.take place
    let line := before.count '\n' + 1
    let column := (before.reverse.takeWhile (· != '\n')).length + 1
    s!" (line {line}, column {column})"
  else ""

/-- The failure that reports why a pattern is refused. -/
def Fault.failure (pattern : List Char) : Fault → Failure
  | syntaxError cause place =>
    ⟨"error", cause.message ++ s!" at position {place}" ++ placeText pattern place, []⟩
  | repetition => ⟨"OverflowError", "the repetition number is too large", []⟩
  | flagsConflict => .value "ASCII and UNICODE flags are incompatible"

end Grader.Pattern

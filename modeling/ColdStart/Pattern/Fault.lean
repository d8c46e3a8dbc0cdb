/-
This file holds the reasons why a text is not a pattern and the sentence that
reports each of them. Most faults have a place, counted in characters; in a
pattern of several lines the sentence adds line and column.
-/

import ColdStart.Text.Quoted

namespace ColdStart

/-- What is wrong with a pattern. -/
inductive PatternProblem where
  | danglingEscape
  | badEscape (escape : List Char)
  | incompleteEscape (escape : List Char)
  | octalTooLarge (escape : List Char)
  | missingBrace
  | missingName (what : String)
  | unterminatedName (terminator : Char)
  | unknownCharacterName (name : String)
  | openGroup
  | lookbehindGroup
  | unknownGroup (group : Nat)
  | badGroupName (name : String)
  | unknownGroupName (name : String)
  | badGroupNumber
  | groupRedefined (name : String) (group earlier : Nat)
  | unterminatedSet
  | badRange (first last : List Char)
  | repeatOrder
  | nothingToRepeat
  | multipleRepeat
  | unexpectedEnd
  | unknownExtension (extension : List Char)
  | unterminatedComment
  | unterminatedGroup
  | tooManyBranches
  | flagsNotAtStart
  | localeFlag
  | clashingFlags
  | unknownFlag
  | unfinishedFlags
  | missingFlag
  | missingColon
  | globalFlagOn
  | globalFlagOff
  | fixedFlagOff
  | flagOnAndOff
  | unbalancedParenthesis
  | lookbehindWidth
  | lookbehindTooWide
  | repeatUnsupported (manner : String)
  deriving DecidableEq, Repr

/-- The sentence for a problem, without its place. -/
def PatternProblem.message : PatternProblem → String
  | danglingEscape => "bad escape (end of pattern)"
  | badEscape escape => "bad escape " ++ String.ofList escape
  | incompleteEscape escape => "incomplete escape " ++ String.ofList escape
  | octalTooLarge escape =>
    "octal escape value " ++ String.ofList escape ++ " outside of range 0-0o377"
  | missingBrace => "missing \x7b"
  | missingName what => "missing " ++ what
  | unterminatedName terminator =>
    "missing " ++ String.singleton terminator ++ ", unterminated name"
  | unknownCharacterName name => "undefined character name " ++ quoted name
  | openGroup => "cannot refer to an open group"
  | lookbehindGroup => "cannot refer to group defined in the same lookbehind subpattern"
  | unknownGroup group => "invalid group reference " ++ toString group
  | badGroupName name => "bad character in group name " ++ quoted name
  | unknownGroupName name => "unknown group name " ++ quoted name
  | badGroupNumber => "bad group number"
  | groupRedefined name group earlier =>
    "redefinition of group name " ++ quoted name ++ " as group " ++ toString group ++
      "; was group " ++ toString earlier
  | unterminatedSet => "unterminated character set"
  | badRange first last =>
    "bad character range " ++ String.ofList first ++ "-" ++ String.ofList last
  | repeatOrder => "min repeat greater than max repeat"
  | nothingToRepeat => "nothing to repeat"
  | multipleRepeat => "multiple repeat"
  | unexpectedEnd => "unexpected end of pattern"
  | unknownExtension extension => "unknown extension ?" ++ String.ofList extension
  | unterminatedComment => "missing ), unterminated comment"
  | unterminatedGroup => "missing ), unterminated subpattern"
  | tooManyBranches => "conditional backref with more than two branches"
  | flagsNotAtStart => "global flags not at the start of the expression"
  | localeFlag => "bad inline flags: cannot use 'L' flag with a str pattern"
  | clashingFlags => "bad inline flags: flags 'a', 'u' and 'L' are incompatible"
  | unknownFlag => "unknown flag"
  | unfinishedFlags => "missing -, : or )"
  | missingFlag => "missing flag"
  | missingColon => "missing :"
  | globalFlagOn => "bad inline flags: cannot turn on global flag"
  | globalFlagOff => "bad inline flags: cannot turn off global flag"
  | fixedFlagOff => "bad inline flags: cannot turn off flags 'a', 'u' and 'L'"
  | flagOnAndOff => "bad inline flags: flag turned on and off"
  | unbalancedParenthesis => "unbalanced parenthesis"
  | lookbehindWidth => "look-behind requires fixed-width pattern"
  | lookbehindTooWide => "looks too much behind"
  | repeatUnsupported manner => "internal: unsupported template operator " ++ manner

/-- Why a text is not a pattern. -/
inductive PatternFault where
  /-- Something is wrong at a place. -/
  | located (problem : PatternProblem) (position : Nat)
  /-- Something is wrong with the pattern as a whole. -/
  | whole (problem : PatternProblem)
  /-- A repetition count is past what can be counted. -/
  | repetitionTooLarge
  /-- A code point is past what can be written. -/
  | codeTooLarge
  /-- A number has more digits than are read. -/
  | tooManyDigits (count : Nat)
  /-- The pattern asks for ASCII only and for all of Unicode. -/
  | asciiAndUnicode
  /-- A step of the reader did not move on. -/
  | stuck
  deriving DecidableEq, Repr

/-- The line and the column of a place, for patterns of more than one line. -/
def placeInLines (pattern : List Char) (position : Nat) : String :=
  if pattern.contains '\n' then
    let before := pattern.take position
    let line := before.count '\n' + 1
    let column := (before.reverse.takeWhile (· != '\n')).length + 1
    " (line " ++ toString line ++ ", column " ++ toString column ++ ")"
  else ""

/-- The sentence that reports the fault of a pattern. -/
def PatternFault.message (pattern : String) : PatternFault → String
  | located problem position =>
    problem.message ++ " at position " ++ toString position ++
      placeInLines pattern.toList position
  | whole problem => problem.message
  | repetitionTooLarge => "the repetition number is too large"
  | codeTooLarge => "Python int too large to convert to C int"
  | tooManyDigits count =>
    "Exceeds the limit (4300 digits) for integer string conversion: value has " ++
      toString count ++ " digits; use sys.set_int_max_str_digits() to increase the limit"
  | asciiAndUnicode => "ASCII and UNICODE flags are incompatible"
  | stuck => "pattern not understood"

end ColdStart

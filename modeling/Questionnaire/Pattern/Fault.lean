import Questionnaire.Json.Reader
import Questionnaire.Text.Quoted

/-!
# What is wrong with a pattern

`Defect` lists the ways in which a text fails to be a pattern.  A defect is shown with the place at
which it was found, and in a pattern of several lines with the line and the column of that place.
-/

namespace Questionnaire.Pattern

/-- A way in which a text fails to be a pattern. -/
inductive Defect where
  | escapeAtEnd
  | badEscape (escape : String)
  | incompleteEscape (escape : String)
  | missingOpeningBrace
  | missingName (what : String)
  | unterminatedName (terminator : String)
  | undefinedCharacterName (name : String)
  | octalTooLarge (escape : String)
  | openGroup
  | groupOfLookbehind
  | unknownGroup (number : Nat)
  | unterminatedSet
  | badRange (first last : String)
  | boundsOutOfOrder
  | nothingToRepeat
  | multipleRepeat
  | unexpectedEnd
  | unknownExtension (extension : String)
  | unterminatedComment
  | unterminatedGroup
  | tooManyBranches
  | badGroupName (name : String)
  | unknownGroupName (name : String)
  | redefinedGroup (name : String) (number earlier : Nat)
  | badGroupNumber
  | misplacedFlags
  | localeFlag
  | incompatibleFlags
  | unknownFlag
  | missing (what : String)
  | globalFlag (onOrOff : String)
  | scriptFlagOff
  | flagOnAndOff
  | unbalanced
  | lookbehindWidth
  | lookbehindTooWide
  | templateOperator (operator : String)
  deriving DecidableEq

/-- The words for a defect. -/
def Defect.message : Defect → String
  | .escapeAtEnd => "bad escape (end of pattern)"
  | .badEscape escape => "bad escape " ++ escape
  | .incompleteEscape escape => "incomplete escape " ++ escape
  | .missingOpeningBrace => "missing \x7b"
  | .missingName what => "missing " ++ what
  | .unterminatedName terminator => "missing " ++ terminator ++ ", unterminated name"
  | .undefinedCharacterName name => "undefined character name " ++ Text.quoted name
  | .octalTooLarge escape => "octal escape value " ++ escape ++ " outside of range 0-0o377"
  | .openGroup => "cannot refer to an open group"
  | .groupOfLookbehind => "cannot refer to group defined in the same lookbehind subpattern"
  | .unknownGroup number => s!"invalid group reference {number}"
  | .unterminatedSet => "unterminated character set"
  | .badRange first last => "bad character range " ++ first ++ "-" ++ last
  | .boundsOutOfOrder => "min repeat greater than max repeat"
  | .nothingToRepeat => "nothing to repeat"
  | .multipleRepeat => "multiple repeat"
  | .unexpectedEnd => "unexpected end of pattern"
  | .unknownExtension extension => "unknown extension ?" ++ extension
  | .unterminatedComment => "missing ), unterminated comment"
  | .unterminatedGroup => "missing ), unterminated subpattern"
  | .tooManyBranches => "conditional backref with more than two branches"
  | .badGroupName name => "bad character in group name " ++ Text.quoted name
  | .unknownGroupName name => "unknown group name " ++ Text.quoted name
  | .redefinedGroup name number earlier =>
    s!"redefinition of group name {Text.quoted name} as group {number}; was group {earlier}"
  | .badGroupNumber => "bad group number"
  | .misplacedFlags => "global flags not at the start of the expression"
  | .localeFlag => "bad inline flags: cannot use 'L' flag with a str pattern"
  | .incompatibleFlags => "bad inline flags: flags 'a', 'u' and 'L' are incompatible"
  | .unknownFlag => "unknown flag"
  | .missing what => "missing " ++ what
  | .globalFlag onOrOff => s!"bad inline flags: cannot turn {onOrOff} global flag"
  | .scriptFlagOff => "bad inline flags: cannot turn off flags 'a', 'u' and 'L'"
  | .flagOnAndOff => "bad inline flags: flag turned on and off"
  | .unbalanced => "unbalanced parenthesis"
  | .lookbehindWidth => "look-behind requires fixed-width pattern"
  | .lookbehindTooWide => "looks too much behind"
  | .templateOperator operator => "internal: unsupported template operator " ++ operator

/-- Why a text is no pattern. -/
inductive Fault where
  /-- A defect at a place of the text. -/
  | foundAt (place : Nat) (defect : Defect)
  /-- A defect of the pattern as a whole. -/
  | overall (defect : Defect)
  /-- A bound of a repetition is beyond all use. -/
  | repetitionTooLarge
  /-- A bound of a repetition has too many digits. -/
  | tooManyDigits (digits : Nat)
  /-- Two script modes are on together. -/
  | scriptFlags
  deriving DecidableEq

namespace Fault

/-- Whether the fault is a defect of the pattern, as opposed to one that is met on the way. -/
def isDefect : Fault → Bool
  | .foundAt .. | .overall _ => true
  | _ => false

/-- The words for a fault of a pattern. -/
def message (pattern : String) : Fault → String
  | .foundAt place defect =>
    let cs := pattern.toList
    let message := s!"{defect.message} at position {place}"
    if cs.contains '\n' then
      let (line, column) := Json.lineAndColumn cs place
      s!"{message} (line {line}, column {column})"
    else message
  | .overall defect => defect.message
  | .repetitionTooLarge => "the repetition number is too large"
  | .tooManyDigits digits => Json.tooManyDigitsMessage digits
  | .scriptFlags => "ASCII and UNICODE flags are incompatible"

end Fault
end Questionnaire.Pattern

import CardSearch.Text.Quoted
/-!
Why a text is not a pattern. A malformed pattern carries the reason and, where one is known, the
place at which reading stopped.
-/
namespace CardSearch.Pattern

inductive Malformed where
  | danglingEscape
  | badEscape (written : Text)
  | incompleteEscape (written : Text)
  | octalTooLarge (written : Text)
  | unknownCharacterName (name : Text)
  | missing (what : String)
  | unterminatedName (closer : Char)
  | unterminatedSet
  | badRange (first last : Text)
  | boundsReversed
  | nothingToRepeat
  | repeatedTwice
  | unexpectedEnd
  | unknownExtension (written : Text)
  | unterminatedComment
  | unterminatedGroup
  | badGroupName (name : Text)
  | unknownGroupName (name : Text)
  | badGroupNumber
  | unknownGroup (group : Nat)
  | groupStillOpen
  | groupOfSameLookbehind
  | groupNameTaken (name : Text) (group earlier : Nat)
  | moreThanTwoBranches
  | misplacedFlags
  | localeFlag
  | incompatibleFlags
  | unknownFlag
  | globalFlagOn
  | globalFlagOff
  | alphabetFlagOff
  | flagOnAndOff
  | unbalancedParenthesis
  | lookbehindTooWide
  | lookbehindUneven
deriving Repr, DecidableEq

def Malformed.message : Malformed → String
  | .danglingEscape => "bad escape (end of pattern)"
  | .badEscape written => "bad escape " ++ String.ofList written
  | .incompleteEscape written => "incomplete escape " ++ String.ofList written
  | .octalTooLarge written =>
    "octal escape value " ++ String.ofList written ++ " outside of range 0-0o377"
  | .unknownCharacterName name =>
    "undefined character name " ++ String.ofList (Text.quoted name)
  | .missing what => "missing " ++ what
  | .unterminatedName closer => "missing " ++ String.ofList [closer] ++ ", unterminated name"
  | .unterminatedSet => "unterminated character set"
  | .badRange first last =>
    "bad character range " ++ String.ofList first ++ "-" ++ String.ofList last
  | .boundsReversed => "min repeat greater than max repeat"
  | .nothingToRepeat => "nothing to repeat"
  | .repeatedTwice => "multiple repeat"
  | .unexpectedEnd => "unexpected end of pattern"
  | .unknownExtension written => "unknown extension " ++ String.ofList written
  | .unterminatedComment => "missing ), unterminated comment"
  | .unterminatedGroup => "missing ), unterminated subpattern"
  | .badGroupName name => "bad character in group name " ++ String.ofList (Text.quoted name)
  | .unknownGroupName name => "unknown group name " ++ String.ofList (Text.quoted name)
  | .badGroupNumber => "bad group number"
  | .unknownGroup group => "invalid group reference " ++ toString group
  | .groupStillOpen => "cannot refer to an open group"
  | .groupOfSameLookbehind => "cannot refer to group defined in the same lookbehind subpattern"
  | .groupNameTaken name group earlier =>
    "redefinition of group name " ++ String.ofList (Text.quoted name) ++ " as group " ++
      toString group ++ "; was group " ++ toString earlier
  | .moreThanTwoBranches => "conditional backref with more than two branches"
  | .misplacedFlags => "global flags not at the start of the expression"
  | .localeFlag => "bad inline flags: cannot use 'L' flag with a str pattern"
  | .incompatibleFlags => "bad inline flags: flags 'a', 'u' and 'L' are incompatible"
  | .unknownFlag => "unknown flag"
  | .globalFlagOn => "bad inline flags: cannot turn on global flag"
  | .globalFlagOff => "bad inline flags: cannot turn off global flag"
  | .alphabetFlagOff => "bad inline flags: cannot turn off flags 'a', 'u' and 'L'"
  | .flagOnAndOff => "bad inline flags: flag turned on and off"
  | .unbalancedParenthesis => "unbalanced parenthesis"
  | .lookbehindTooWide => "looks too much behind"
  | .lookbehindUneven => "look-behind requires fixed-width pattern"

inductive Fault where
  | malformed (reason : Malformed) (position : Option Nat)
  | repetitionTooLarge
  | nestedTooDeep
  /-- A repetition count is written with more digits than a numeral may have. -/
  | numeralTooLong (digits : Nat)
deriving Repr, DecidableEq

def lineAndColumn (text : Text) (position : Nat) : Nat × Nat :=
  let before := text.take position
  (before.count '\n' + 1, (before.reverse.takeWhile (· != '\n')).length + 1)

def Fault.message (text : Text) : Fault → String
  | .malformed reason none => reason.message
  | .malformed reason (some position) =>
    let located := reason.message ++ " at position " ++ toString position
    if text.contains '\n' then
      let (line, column) := lineAndColumn text position
      located ++ " (line " ++ toString line ++ ", column " ++ toString column ++ ")"
    else located
  | .repetitionTooLarge => "the repetition number is too large"
  | .nestedTooDeep => "maximum recursion depth exceeded"
  | .numeralTooLong digits =>
    "Exceeds the limit (4300 digits) for integer string conversion: value has " ++
      toString digits ++ " digits; use sys.set_int_max_str_digits() to increase the limit"

end CardSearch.Pattern

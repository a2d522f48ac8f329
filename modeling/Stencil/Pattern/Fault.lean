import Stencil.Text.Quoted

/-!
# Faults of Patterns

Why a text is no pattern, and where.

Most faults have a place, which counts characters from 0. If the text has more
than one line, the line and the column are told as well; both count from 1.

Some limits are none of a pattern's own: they are faults of what it is read
with, and are not reported as faults of the pattern.

## Main definitions

* `Pattern.Fault`: What is wrong.
* `Pattern.Limit`: Limits of the reader.
* `Pattern.Error`: A fault and its place.
* `Pattern.Error.report?`: What is told about a text that is no pattern.
-/

namespace Stencil.Pattern

/-- How a repetition chooses between more rounds and fewer. -/
inductive Greed where
  /-- More rounds are tried first. -/
  | greedy
  /-- Fewer rounds are tried first. -/
  | lazy
  /-- As many rounds as there can be, and no others. -/
  | possessive
deriving DecidableEq, Repr

/-- Limits of the reader. -/
inductive Limit where
  /-- A number has too many digits. -/
  | digits
  /-- A number of repetitions is too great. -/
  | repetitions
  /-- A code point is too great to be looked up. -/
  | codePoint
  /-- Groups are nested too deep. -/
  | depth
  /-- Classes are to be of ASCII and of all scripts. -/
  | extents
deriving DecidableEq, Repr

/-- What is wrong with a text that is no pattern. -/
inductive Fault where
  /-- A group is opened and not closed. -/
  | unclosedGroup
  /-- A class is opened and not closed. -/
  | unclosedSet
  /-- A comment is opened and not closed. -/
  | unclosedComment
  /-- A group is closed that was not opened. -/
  | strayClose
  /-- The text ends within a construct. -/
  | cutOff
  /-- A repetition follows nothing that can be repeated. -/
  | nothingToRepeat
  /-- A repetition follows a repetition. -/
  | repeatedTwice
  /-- The least number of repetitions exceeds the greatest. -/
  | leastExceedsMost
  /-- The text ends after a backslash. -/
  | danglingEscape
  /-- An escape that means nothing. -/
  | badEscape (escape : String)
  /-- An escape with too few digits. -/
  | incompleteEscape (escape : String)
  /-- An escape with an octal number that is too great. -/
  | greatOctal (escape : String)
  /-- The name of a character is not in braces. -/
  | noBrace
  /-- A character is asked for without a name. -/
  | noCharacterName
  /-- No character has the name. -/
  | unknownCharacter (name : String)
  /-- The ends of a range are no two characters in order. -/
  | badRange (first last : String)
  /-- A group is asked for without a name. -/
  | noGroupName
  /-- A name does not end, with the character that should end it. -/
  | unclosedName (stop : Char)
  /-- The name of a group is no identifier. -/
  | badGroupName (name : String)
  /-- Two groups have the same name. -/
  | takenGroupName (name : String) (number first : Nat)
  /-- No group has the name. -/
  | unknownGroup (name : String)
  /-- No group has the number. -/
  | noGroup (number : Nat)
  /-- The number zero, which is that of no group. -/
  | groupZero
  /-- A group is referred to while it is open. -/
  | openGroup
  /-- A group is referred to in the look behind that it is part of. -/
  | groupLookedBehind
  /-- A choice by a group has more than two branches. -/
  | thirdBranch
  /-- A construct that has no meaning, as it stands after the question mark. -/
  | unknownExtension (text : String)
  /-- A letter that is no option. -/
  | unknownOption
  /-- Options to turn on do not end. -/
  | unclosedOptions
  /-- There is no option to turn off. -/
  | noOption
  /-- Options to turn off do not end. -/
  | noColon
  /-- An option that only texts of bytes have. -/
  | bytesOption
  /-- Options that exclude each other. -/
  | optionsClash
  /-- An option is turned off that can only be exchanged. -/
  | optionStays
  /-- An option of the whole pattern is turned on in a part of it. -/
  | wholeOptionOn
  /-- An option of the whole pattern is turned off in a part of it. -/
  | wholeOptionOff
  /-- An option is turned on and off. -/
  | optionOnAndOff
  /-- Options of the whole pattern do not stand at its start. -/
  | lateOptions
  /-- What is looked for behind does not have one length. -/
  | unevenLook
  /-- What is looked for behind is too long. -/
  | farLook
  /-- A repetition where the options of the whole pattern admit none. -/
  | repetition (greed : Greed)
  /-- A limit of the reader is exceeded. -/
  | beyond (limit : Limit)
deriving DecidableEq, Repr

/-- What is told about a fault; nothing about limits of the reader. -/
def Fault.text? : Fault → Option String
  | unclosedGroup => some "missing ), unterminated subpattern"
  | unclosedSet => some "unterminated character set"
  | unclosedComment => some "missing ), unterminated comment"
  | strayClose => some "unbalanced parenthesis"
  | cutOff => some "unexpected end of pattern"
  | nothingToRepeat => some "nothing to repeat"
  | repeatedTwice => some "multiple repeat"
  | leastExceedsMost => some "min repeat greater than max repeat"
  | danglingEscape => some "bad escape (end of pattern)"
  | badEscape escape => some ("bad escape " ++ escape)
  | incompleteEscape escape => some ("incomplete escape " ++ escape)
  | greatOctal escape => some ("octal escape value " ++ escape ++ " outside of range 0-0o377")
  | noBrace => some "missing \x7b"
  | noCharacterName => some "missing character name"
  | unknownCharacter name => some ("undefined character name " ++ Text.quoted name)
  | badRange first last => some ("bad character range " ++ first ++ "-" ++ last)
  | noGroupName => some "missing group name"
  | unclosedName stop => some ("missing " ++ .ofList [stop] ++ ", unterminated name")
  | badGroupName name => some ("bad character in group name " ++ Text.quoted name)
  | takenGroupName name number first =>
    some ("redefinition of group name " ++ Text.quoted name ++ " as group " ++ toString number ++
      "; was group " ++ toString first)
  | unknownGroup name => some ("unknown group name " ++ Text.quoted name)
  | noGroup number => some ("invalid group reference " ++ toString number)
  | groupZero => some "bad group number"
  | openGroup => some "cannot refer to an open group"
  | groupLookedBehind =>
    some "cannot refer to group defined in the same lookbehind subpattern"
  | thirdBranch => some "conditional backref with more than two branches"
  | unknownExtension text => some ("unknown extension ?" ++ text)
  | unknownOption => some "unknown flag"
  | unclosedOptions => some "missing -, : or )"
  | noOption => some "missing flag"
  | noColon => some "missing :"
  | bytesOption => some "bad inline flags: cannot use 'L' flag with a str pattern"
  | optionsClash => some "bad inline flags: flags 'a', 'u' and 'L' are incompatible"
  | optionStays => some "bad inline flags: cannot turn off flags 'a', 'u' and 'L'"
  | wholeOptionOn => some "bad inline flags: cannot turn on global flag"
  | wholeOptionOff => some "bad inline flags: cannot turn off global flag"
  | optionOnAndOff => some "bad inline flags: flag turned on and off"
  | lateOptions => some "global flags not at the start of the expression"
  | unevenLook => some "look-behind requires fixed-width pattern"
  | farLook => some "looks too much behind"
  | repetition .greedy => some "internal: unsupported template operator MAX_REPEAT"
  | repetition .lazy => some "internal: unsupported template operator MIN_REPEAT"
  | repetition .possessive => some "internal: unsupported template operator POSSESSIVE_REPEAT"
  | beyond _ => none

/-- A fault, and its place if it has one. -/
structure Error where
  fault : Fault
  place : Option Nat
deriving DecidableEq, Repr

/-- A place in a text, with its line and column if there are several lines. -/
def placeText (source : List Char) (place : Nat) : String :=
  let before := source.take place
  let position := " at position " ++ toString place
  if source.contains '\n' then
    let line := before.count '\n' + 1
    let column := (before.reverse.takeWhile (· != '\n')).length + 1
    position ++ " (line " ++ toString line ++ ", column " ++ toString column ++ ")"
  else position

/-- What is told about the fault of a text. -/
def Error.report? (source : String) (e : Error) : Option String :=
  e.fault.text?.map fun text => text ++ (e.place.map (placeText source.toList)).getD ""

/-- Lines are counted only where there are several. -/
example : placeText "(a".toList 0 = " at position 0" ∧
    placeText "(\n".toList 0 = " at position 0 (line 1, column 1)" ∧
    placeText "a\nb(\n".toList 3 = " at position 3 (line 2, column 2)" := by
  decide +kernel

end Stencil.Pattern

import Settle.Text.Decimal
import Settle.Text.Quoted

/-!
# Faults in regular expressions

What is wrong with the text of a regular expression, and where. A place is an offset in code
points; in a text of several lines it is given by line and column as well.
-/

namespace Settle.Pattern

inductive Fault where
  | danglingBackslash
  | incompleteEscape (escape : Text)
  | badEscape (escape : Text)
  | octalEscape (escape : Text)
  | missingBrace
  | unknownCharacterName (name : Text)
  | openGroup
  | groupOfSameLookbehind
  | invalidGroup (index : Nat)
  | unterminatedSet
  | badRange (lo hi : Text)
  | repeatBounds
  | nothingToRepeat
  | multipleRepeat
  | unexpectedEnd
  | missingName (what : Text)
  | unterminatedName (terminator : Text)
  | badGroupName (name : Text)
  | unknownGroupName (name : Text)
  | redefinedGroup (name : Text) (index before : Nat)
  | zeroGroup
  | unknownExtension (letters : Text)
  | unterminatedComment
  | unterminatedGroup
  | thirdBranch
  | lateFlags
  | localeFlag
  | mixedTypeFlags
  | negatedTypeFlags
  | globalFlagOn
  | globalFlagOff
  | flagOnAndOff
  | unknownFlag
  | flagsEnd
  | missingFlag
  | missingColon
  | unbalanced
  | unfixedWidth
  | tooFarBehind
  | templateLoop (operator : Text)
  deriving DecidableEq

/-- Why a text is no regular expression. -/
inductive PatternError where
  | fault (fault : Fault) (offset? : Option Nat)
  /-- Flags that exclude each other. -/
  | incompatibleFlags
  /-- A number of too many digits. -/
  | longNumber (digits : Nat)
  /-- A number of repetitions, or of a code point, that is too large. -/
  | hugeNumber
  deriving DecidableEq

namespace Fault

/-- What is wrong, without the place. -/
def detail : Fault → Text
  | .danglingBackslash      => "bad escape (end of pattern)"
  | .incompleteEscape e     => "incomplete escape " ++ e
  | .badEscape e            => "bad escape " ++ e
  | .octalEscape e          => "octal escape value " ++ e ++ " outside of range 0-0o377"
  | .missingBrace           => "missing \x7b"
  | .unknownCharacterName n => "undefined character name " ++ n.quoted
  | .openGroup              => "cannot refer to an open group"
  | .groupOfSameLookbehind  => "cannot refer to group defined in the same lookbehind subpattern"
  | .invalidGroup i         => "invalid group reference " ++ Decimal.ofNat i
  | .unterminatedSet        => "unterminated character set"
  | .badRange lo hi         => "bad character range " ++ lo ++ "-" ++ hi
  | .repeatBounds           => "min repeat greater than max repeat"
  | .nothingToRepeat        => "nothing to repeat"
  | .multipleRepeat         => "multiple repeat"
  | .unexpectedEnd          => "unexpected end of pattern"
  | .missingName what       => "missing " ++ what
  | .unterminatedName t     => "missing " ++ t ++ ", unterminated name"
  | .badGroupName n         => "bad character in group name " ++ n.quoted
  | .unknownGroupName n     => "unknown group name " ++ n.quoted
  | .redefinedGroup n i j   =>
    "redefinition of group name " ++ n.quoted ++ " as group " ++ Decimal.ofNat i ++
      "; was group " ++ Decimal.ofNat j
  | .zeroGroup              => "bad group number"
  | .unknownExtension e     => "unknown extension ?" ++ e
  | .unterminatedComment    => "missing ), unterminated comment"
  | .unterminatedGroup      => "missing ), unterminated subpattern"
  | .thirdBranch            => "conditional backref with more than two branches"
  | .lateFlags              => "global flags not at the start of the expression"
  | .localeFlag             => "bad inline flags: cannot use 'L' flag with a str pattern"
  | .mixedTypeFlags         => "bad inline flags: flags 'a', 'u' and 'L' are incompatible"
  | .negatedTypeFlags       => "bad inline flags: cannot turn off flags 'a', 'u' and 'L'"
  | .globalFlagOn           => "bad inline flags: cannot turn on global flag"
  | .globalFlagOff          => "bad inline flags: cannot turn off global flag"
  | .flagOnAndOff           => "bad inline flags: flag turned on and off"
  | .unknownFlag            => "unknown flag"
  | .flagsEnd               => "missing -, : or )"
  | .missingFlag            => "missing flag"
  | .missingColon           => "missing :"
  | .unbalanced             => "unbalanced parenthesis"
  | .unfixedWidth           => "look-behind requires fixed-width pattern"
  | .tooFarBehind           => "looks too much behind"
  | .templateLoop op        => "internal: unsupported template operator " ++ op

/-- A place by line and column, counted from one; columns start behind the last line feed. -/
def lineAndColumn (pattern : Text) (offset : Nat) : Nat × Nat :=
  let before := pattern.take offset
  (before.count (CodePoint.ofChar '\n') + 1,
    (before.reverse.takeWhile (· ≠ CodePoint.ofChar '\n')).length + 1)

/-- What is wrong with a pattern, and where. -/
def message (pattern : Text) (f : Fault) : Option Nat → Text
  | none   => f.detail
  | some n =>
    let place := f.detail ++ " at position " ++ Decimal.ofNat n
    if pattern.contains (CodePoint.ofChar '\n') then
      let (line, column) := lineAndColumn pattern n
      place ++ " (line " ++ Decimal.ofNat line ++ ", column " ++ Decimal.ofNat column ++ ")"
    else place

end Fault

end Settle.Pattern

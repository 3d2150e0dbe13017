import Settle.Text.Decimal
import Settle.Text.Quoted

/-!
# Faults in the text of a path

Each fault says what was found; those that have a place say at which offset, counted in code
points from zero.
-/

namespace Settle

inductive PathFault where
  | notText
  | empty
  | splat
  | expectedName (offset : Nat)
  | unexpected (c : CodePoint) (offset : Nat)
  | digitsInName (offset : Nat)
  | expectedIndex (offset : Nat)
  | fractionalIndex
  | unclosedBracket (offset : Nat)
  | unclosedQuote
  | unknownEscape (letter : CodePoint)
  | shortEscape (letter : CodePoint) (width : Nat)
  | unpairedSurrogate (high low : Nat)
  | noCodePoint (letter : CodePoint) (number : Nat)
  deriving DecidableEq

/-- Why a text gave no path: a fault of the text, or a number outside the limits. -/
inductive PathError where
  | fault (fault : PathFault)
  /-- An index of too many digits. -/
  | longIndex (digits : Nat)
  /-- An escaped number that no signed 32-bit word holds. -/
  | hugeCodePoint
  deriving DecidableEq

namespace PathFault

/-- The offset that the fault names. -/
def offset? : PathFault → Option Nat
  | .expectedName n    => some n
  | .unexpected _ n    => some n
  | .digitsInName n    => some n
  | .expectedIndex n   => some n
  | .unclosedBracket n => some n
  | _                  => none

private def atOffset (what : Text) (n : Nat) : Text :=
  what ++ " at offset " ++ Decimal.ofNat n

/-- The wording of a fault. -/
def detail : PathFault → Text
  | .notText                => "path must be a string"
  | .empty                  => "path is empty"
  | .splat                  => "splat is not supported"
  | .expectedName n         => atOffset "expected attribute name" n
  | .unexpected c n         => atOffset ("unexpected character " ++ Text.quoted [c]) n
  | .digitsInName n         => atOffset "invalid attribute name" n
  | .expectedIndex n        => atOffset "expected index or quoted key" n
  | .fractionalIndex        => "index in field path must be an integer"
  | .unclosedBracket n      => atOffset "missing closing bracket" n
  | .unclosedQuote          => "unterminated quoted key"
  | .unknownEscape c        => "invalid escape \\" ++ c :: " in quoted key"
  | .shortEscape c width    =>
    "invalid \\" ++ c :: " escape, expected " ++ Decimal.ofNat width ++ " hex digits"
  | .unpairedSurrogate h l  => "invalid surrogate pair \\u" ++ Text.hex 4 h ++ "\\u" ++ Text.hex 4 l
  | .noCodePoint c n        => "invalid code point \\" ++ c :: Text.hex 0 n

end PathFault

end Settle

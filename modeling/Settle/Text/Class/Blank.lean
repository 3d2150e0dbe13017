import Settle.Text.Basic

/-!
# Blanks

The code points that are left out at the ends of a number or a duration: those with a blank
bidirectional class or a space category (version 14.0 of the Unicode character database).
-/

namespace Settle.CodePoint

/-- Runs of blanks, both ends included. -/
def blankRuns : List (Nat × Nat) := [
  (0x9, 0xd), (0x1c, 0x20), (0x85, 0x85), (0xa0, 0xa0), (0x1680, 0x1680),
  (0x2000, 0x200a), (0x2028, 0x2029), (0x202f, 0x202f), (0x205f, 0x205f), (0x3000, 0x3000)]

/-- A blank of any script. -/
def isBlank (c : CodePoint) : Bool :=
  blankRuns.any fun (lo, hi) => lo ≤ c.val && c.val ≤ hi

/-- A blank of the first 128 code points that is no information separator. -/
def isAsciiBlank (c : CodePoint) : Bool :=
  c.between '\t' '\r' || c = ' '

example : (' ' : CodePoint).isBlank ∧ ('\n' : CodePoint).isBlank ∧ !('a' : CodePoint).isBlank := by
  decide

end Settle.CodePoint

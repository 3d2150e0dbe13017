import Settle.Text.Case.Lower
import Settle.Text.Case.Upper

/-!
# Case-insensitive comparison

Two code points are the same but for case if their lower-case forms are equal, or are different
lower-case forms of one upper-case letter.
-/

namespace Settle.CodePoint

/-- The other lower-case letters with the same upper-case letter. -/
def siblings : List (Nat × List Nat) := [
  (0x69, [0x131]), (0x73, [0x17f]), (0xb5, [0x3bc]), (0x131, [0x69]), (0x17f, [0x73]),
  (0x345, [0x3b9, 0x1fbe]), (0x390, [0x1fd3]), (0x3b0, [0x1fe3]), (0x3b2, [0x3d0]),
  (0x3b5, [0x3f5]), (0x3b8, [0x3d1]), (0x3b9, [0x345, 0x1fbe]), (0x3ba, [0x3f0]), (0x3bc, [0xb5]),
  (0x3c0, [0x3d6]), (0x3c1, [0x3f1]), (0x3c2, [0x3c3]), (0x3c3, [0x3c2]), (0x3c6, [0x3d5]),
  (0x3d0, [0x3b2]), (0x3d1, [0x3b8]), (0x3d5, [0x3c6]), (0x3d6, [0x3c0]), (0x3f0, [0x3ba]),
  (0x3f1, [0x3c1]), (0x3f5, [0x3b5]), (0x432, [0x1c80]), (0x434, [0x1c81]), (0x43e, [0x1c82]),
  (0x441, [0x1c83]), (0x442, [0x1c84, 0x1c85]), (0x44a, [0x1c86]), (0x463, [0x1c87]),
  (0x1c80, [0x432]), (0x1c81, [0x434]), (0x1c82, [0x43e]), (0x1c83, [0x441]),
  (0x1c84, [0x442, 0x1c85]), (0x1c85, [0x442, 0x1c84]), (0x1c86, [0x44a]), (0x1c87, [0x463]),
  (0x1c88, [0xa64b]), (0x1e61, [0x1e9b]), (0x1e9b, [0x1e61]), (0x1fbe, [0x345, 0x3b9]),
  (0x1fd3, [0x390]), (0x1fe3, [0x3b0]), (0xa64b, [0x1c88]), (0xfb05, [0xfb06]), (0xfb06, [0xfb05])]

/-- The lower-case letters that share an upper-case letter with the lower-case letter `c`,
itself first. -/
def lowerClass (c : CodePoint) : List CodePoint :=
  c :: ((siblings.lookup c.val).getD []).filterMap ofNat?

/-- Differs from its lower-case form, or from what its upper-case form begins with. -/
def isCased (c : CodePoint) : Bool := c ≠ c.lower || c ≠ c.upperHead

/-- The lower-case form among the first 128 code points. -/
def asciiLower (c : CodePoint) : CodePoint := if c.isAscii then c.lower else c

/-- A letter of the first 128 code points. -/
def isAsciiCased (c : CodePoint) : Bool := c.isLetter

end Settle.CodePoint

/-!
# Powers of two and of ten

The two bases of the numbers here: binary numbers are scaled by the one, decimals by the other.
-/

namespace Settle

/-- Two to the `n`-th. -/
abbrev twoTo (n : Nat) : Nat := Nat.pow 2 n

/-- Ten to the `n`-th. -/
abbrev tenTo (n : Nat) : Nat := Nat.pow 10 n

end Settle

import Settle.Text.Basic

/-!
# Sets of code points as sorted bounds

A set of numbers is written as the ascending list of the places where it begins and ends: the
even entries begin a run, the odd ones end it, excluded.
-/

namespace Settle.Ranges

/-- How many of the entries `lo ≤ i < hi` are at most `n`, plus `lo`, when the entries ascend. -/
def countFrom (bounds : Array Nat) (n lo hi : Nat) : Nat :=
  if h : lo < hi then
    let mid := (lo + hi) / 2
    if bounds.getD mid 0 ≤ n then countFrom bounds n (mid + 1) hi
    else countFrom bounds n lo mid
  else lo
termination_by hi - lo
decreasing_by all_goals omega

/-- Inside a run: an odd number of bounds lie at or below. -/
def mem (bounds : Array Nat) (n : Nat) : Bool :=
  countFrom bounds n 0 bounds.size % 2 == 1

end Settle.Ranges

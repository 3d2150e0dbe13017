import Settle.Number.Shortest

/-!
# Decimals with a given number of digits

A number rounded to six places behind the point, or to three digits in all; halves go to the
even neighbour.
-/

namespace Settle.Binary64

/-- Numerator and denominator of the absolute value. -/
def fraction (m : Nat) (e : Int) : Nat × Nat :=
  if 0 ≤ e then (m * twoTo e.toNat, 1) else (m, twoTo (-e).toNat)

/-- With `places` digits behind the point. -/
def fixed (places : Nat) : Binary64 → Text
  | .nan        => "nan"
  | .infinite s => if s then "-inf" else "inf"
  | .finite s m e _ =>
    let (num, den) := fraction m e
    let n := nearest (num * tenTo places) den
    let ds := Decimal.ofNat n
    let ds := List.replicate (places + 1 - ds.length) (CodePoint.ofChar '0') ++ ds
    let body := ds.take (ds.length - places) ++ "." ++ ds.drop (ds.length - places)
    if s then "-" ++ body else body

/-- Rounded to `k` digits, without trailing zeros. -/
def significant (k : Nat) (m : Nat) (e : Int) : Scientific :=
  let (num, den) := fraction m e
  let p := decimalMagnitude num den
  let s := p + 1 - k
  let d := if 0 ≤ s then nearest num (den * tenTo s.toNat) else nearest (num * tenTo (-s).toNat) den
  ⟨stripZeros k d, if tenTo k ≤ d then p + 1 else p⟩

/-- With at most `k` significant digits, positional where that many reach. -/
def brief (k : Nat) : Binary64 → Text
  | .nan        => "nan"
  | .infinite s => if s then "-inf" else "inf"
  | .finite s m e _ =>
    let body := if m = 0 then ("0" : Text) else (significant k m e).text (-4) k []
    if s then "-" ++ body else body

end Settle.Binary64

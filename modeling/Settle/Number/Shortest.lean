import Settle.Number.Binary64
import Settle.Text.Decimal

/-!
# The shortest decimal that reads back

Among the decimals that round to a given number, those with the fewest digits are taken, and of
these the nearest, ties to the even last digit.

The text of a number places the point among the digits while the leading digit stands between
`10 ^ -4` and `10 ^ 15`, and writes an exponent of at least two digits otherwise.
-/

namespace Settle.Binary64

/-- Digits without trailing zeros, the first of them worth `10 ^ exponent`. -/
structure Scientific where
  digits   : Nat
  exponent : Int

/-- The ends of the interval of values that round to `m * 2 ^ e`, in quarters of `2 ^ e`, and
whether the ends themselves do. -/
def interval (m : Nat) (e : Int) : Nat × Nat × Bool :=
  let low := if m = twoTo 52 && -1074 < e then 4 * m - 1 else 4 * m - 2
  (low, 4 * m + 2, m % 2 == 0)

/-- The largest `p` with `10 ^ p ≤ num / den`, counting up from `p`. -/
def decade (num den : Nat) : Nat → Int → Int
  | 0,     p => p
  | k + 1, p =>
    let reaches :=
      if 0 ≤ p + 1 then den * tenTo (p + 1).toNat ≤ num else den ≤ num * tenTo (-(p + 1)).toNat
    if reaches then decade num den k (p + 1) else p

/-- The largest `p` with `10 ^ p ≤ num / den`. -/
def decimalMagnitude (num den : Nat) : Int :=
  let e := magnitude num den
  -- ten is between two to the third and two to the fourth
  decade num den 4 (if 0 ≤ e then e * 30102 / 100000 - 1 else e * 30103 / 100000 - 1)

/-- The hit with `k` digits: of the two neighbours of `num / den` on the grid of `k` digits, the
nearer that lies between `low / 4` and `high / 4` units of `num / den / m`. -/
def hit (num den m low high : Nat) (closed : Bool) (p : Int) (k : Nat) : Option Nat :=
  let s := p + 1 - k
  -- in units of the grid, `value = a / b`
  let (a, b) := if 0 ≤ s then (num, den * tenTo s.toNat) else (num * tenTo (-s).toNat, den)
  let d := a / b
  -- `n` stands for `n * b / a * m` units of the last place of the significand
  let inside (n : Nat) : Bool :=
    let x := 4 * n * b * m
    if closed then low * a ≤ x && x ≤ high * a else low * a < x && x < high * a
  let r := a % b
  match inside d, inside (d + 1) with
  | true,  true  => some (if 2 * r < b then d else if b < 2 * r then d + 1 else d + d % 2)
  | true,  false => some d
  | false, true  => some (d + 1)
  | false, false => none

/-- Without its trailing zeros. -/
def stripZeros (fuel n : Nat) : Nat :=
  match fuel with
  | 0        => n
  | fuel + 1 => if n ≠ 0 && n % 10 == 0 then stripZeros fuel (n / 10) else n

/-- The shortest decimal that rounds to `m * 2 ^ e`. -/
def shortestOf (m : Nat) (e : Int) : Scientific :=
  let (num, den) := if 0 ≤ e then (m * twoTo e.toNat, 1) else (m, twoTo (-e).toNat)
  let p := decimalMagnitude num den
  let (low, high, closed) := interval m e
  let rec search : Nat → Nat → Scientific
    | 0,        k => ⟨num, k⟩
    | fuel + 1, k =>
      match hit num den m low high closed p k with
      | some d => ⟨stripZeros 20 d, if tenTo k ≤ d then p + 1 else p⟩
      | none   => search fuel (k + 1)
  search 17 1

/-- The exponent with its sign and at least two digits. -/
def exponentText (p : Int) : Text :=
  let n := Decimal.ofNat p.natAbs
  "e" ++ (if p < 0 then ("-" : Text) else "+") ++ (if n.length < 2 then ("0" : Text) else []) ++ n

/-- Digits with the point after the first of them, if more follow. -/
def pointed : Text → Text
  | []      => []
  | [d]     => [d]
  | d :: ds => d :: "." ++ ds

/-- Digits and a decimal exponent as text: between `10 ^ low` and `10 ^ high` in positional
notation. -/
def Scientific.text (low high : Int) (whole : Text) (s : Scientific) : Text :=
  let ds := Decimal.ofNat s.digits
  let p := s.exponent
  if p < low || high ≤ p then pointed ds ++ exponentText p
  else if p < 0 then "0." ++ List.replicate (-p - 1).toNat (CodePoint.ofChar '0') ++ ds
  else
    let n := p.toNat + 1
    if ds.length ≤ n then ds ++ List.replicate (n - ds.length) (CodePoint.ofChar '0') ++ whole
    else ds.take n ++ "." ++ ds.drop n

/-- The text that reads back: whole numbers end in `.0`, the others have their shortest digits. -/
def text : Binary64 → Text
  | .nan        => "nan"
  | .infinite s => if s then "-inf" else "inf"
  | .finite s m e _ =>
    let body := if m = 0 then ("0.0" : Text) else (shortestOf m e).text (-4) 16 ".0"
    if s then "-" ++ body else body

end Settle.Binary64

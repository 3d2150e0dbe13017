import Settle.Number.Power

/-!
# Binary floating point

The numbers of the 64-bit binary format: a sign, a significand below `2 ^ 53` and an exponent, or
an infinity, or not a number. Every finite number is a whole multiple of the smallest positive
one, so sums and comparisons are done on integers and products on their quotients; each result is
the exact one rounded to the nearest number of the format, ties to the even significand.
-/

namespace Settle

/-- A significand and an exponent that the format can hold, in their only form: the significand
is as large as it can be. -/
abbrev Binary64.Canonical (significand : Nat) (exponent : Int) : Prop :=
  significand < twoTo 53 ∧ -1074 ≤ exponent ∧ exponent ≤ 971 ∧
    (twoTo 52 ≤ significand ∨ exponent = -1074)

/-- A finite number is `± significand * 2 ^ exponent`. -/
inductive Binary64 where
  | nan
  | infinite (negative : Bool)
  | finite (negative : Bool) (significand : Nat) (exponent : Int)
      (canonical : Binary64.Canonical significand exponent)
  deriving DecidableEq

namespace Binary64

/-! ### Rounding -/

/-- The whole number nearest to `num / den`, a half going to the even neighbour. -/
def nearest (num den : Nat) : Nat :=
  let q := num / den
  let r := num % den
  if 2 * r < den then q
  else if 2 * r = den then q + q % 2
  else q + 1

/-- The largest `e` with `2 ^ e ≤ num / den`. -/
def magnitude (num den : Nat) : Int :=
  let e : Int := (Nat.log2 num : Int) - Nat.log2 den
  let reaches := if 0 ≤ e then den * twoTo e.toNat ≤ num else den ≤ num * twoTo (-e).toNat
  if reaches then e else e - 1

/-- A number of the format, or an infinity if it is too large. -/
def pack (negative : Bool) (significand : Nat) (exponent : Int) : Binary64 :=
  if h : Canonical significand exponent then .finite negative significand exponent h
  else .infinite negative

/-- The zero of either sign. -/
def signedZero (negative : Bool) : Binary64 := .finite negative 0 (-1074) (by decide)

/-- The number nearest to `± num / den`. -/
def ofRatio (negative : Bool) (num den : Nat) : Binary64 :=
  if num = 0 then signedZero negative
  else
    let e := max (-1074) (magnitude num den - 52)
    let m :=
      if 0 ≤ e then nearest num (den * twoTo e.toNat) else nearest (num * twoTo (-e).toNat) den
    if m = twoTo 53 then pack negative (twoTo 52) (e + 1) else pack negative m e

instance : Zero Binary64 := ⟨signedZero false⟩
instance : Inhabited Binary64 := ⟨0⟩

/-- The number nearest to a whole number; none when that is an infinity. -/
def ofInt? (i : Int) : Option Binary64 :=
  match ofRatio (i < 0) i.natAbs 1 with
  | .infinite _ => none
  | x           => some x

/-- The number nearest to a natural number. -/
def ofNat (n : Nat) : Binary64 := ofRatio false n 1

/-- The number nearest to `± digits * 10 ^ exponent`. -/
def ofDecimal (negative : Bool) (digits : Nat) (exponent : Int) : Binary64 :=
  if digits = 0 then signedZero negative
  else
    -- beyond these bounds the result is an infinity or a zero
    if 400 < exponent then .infinite negative
    else if exponent + Nat.log2 digits / 3 < -400 then signedZero negative
    else if 0 ≤ exponent then ofRatio negative (digits * tenTo exponent.toNat) 1
    else ofRatio negative digits (tenTo (-exponent).toNat)

/-! ### Views -/

/-- How often the smallest positive number goes into a finite one. -/
def units : Binary64 → Int
  | .finite negative m e _ =>
    let n : Int := m * twoTo (e + 1074).toNat
    if negative then -n else n
  | _ => 0

def isNaN : Binary64 → Bool
  | .nan => true
  | _    => false

def isFinite : Binary64 → Bool
  | .finite .. => true
  | _          => false

def isNegative : Binary64 → Bool
  | .nan              => false
  | .infinite neg     => neg
  | .finite neg _ _ _ => neg

/-- The whole part, without the sign's direction: fractions go towards zero. -/
def truncate (x : Binary64) : Int := Int.tdiv x.units (twoTo 1074)

/-- A finite number without fraction. -/
def isWhole (x : Binary64) : Bool :=
  x.isFinite && x.units % twoTo 1074 == 0

/-! ### Arithmetic -/

def neg : Binary64 → Binary64
  | .nan               => .nan
  | .infinite s        => .infinite (!s)
  | .finite s m e h    => .finite (!s) m e h

instance : Neg Binary64 := ⟨neg⟩

/-- The number nearest to `n` times the smallest positive one. -/
def ofUnits (n : Int) : Binary64 := ofRatio (n < 0) n.natAbs (twoTo 1074)

def add : Binary64 → Binary64 → Binary64
  | .nan, _ => .nan
  | _, .nan => .nan
  | .infinite s, .infinite t => if s = t then .infinite s else .nan
  | .infinite s, _ => .infinite s
  | _, .infinite t => .infinite t
  | x@(.finite s _ _ _), y@(.finite t _ _ _) =>
    let n := x.units + y.units
    if n = 0 then signedZero (s && t) else ofUnits n

instance : Add Binary64 := ⟨add⟩

instance : Sub Binary64 := ⟨fun x y => x + -y⟩

def mul : Binary64 → Binary64 → Binary64
  | .nan, _ => .nan
  | _, .nan => .nan
  | .infinite s, .infinite t => .infinite (s != t)
  | .infinite s, .finite t m _ _ => if m = 0 then .nan else .infinite (s != t)
  | .finite s m _ _, .infinite t => if m = 0 then .nan else .infinite (s != t)
  | x@(.finite s _ _ _), y@(.finite t _ _ _) =>
    ofRatio (s != t) (x.units * y.units).natAbs (twoTo 2148)

instance : Mul Binary64 := ⟨mul⟩

/-- `x` to the `n`-th; none when a finite `x` gives an infinity. -/
def pow? (x : Binary64) (n : Nat) : Option Binary64 :=
  if n = 0 then some (ofNat 1)
  else
    match x with
    | .nan => some .nan
    | .infinite s => some (.infinite (s && n % 2 == 1))
    | .finite s m e _ =>
      let negative := s && n % 2 == 1
      let k := e * n
      -- a value of `2 ^ 1100` or more, or below `2 ^ -1200`, needs no digits
      let top := k + (Nat.log2 m : Int) * n
      if m = 0 then some (signedZero negative)
      else if 1100 < top then none
      else if top + n < -1200 then some (signedZero negative)
      else
        let power := Nat.pow m n
        let r := if 0 ≤ k then ofRatio negative (power * twoTo k.toNat) 1
          else ofRatio negative power (twoTo (-k).toNat)
        match r with
        | .infinite _ => none
        | y           => some y

/-! ### Order -/

/-- Strictly less; never so with not-a-number. -/
def lt : Binary64 → Binary64 → Bool
  | .nan, _ => false
  | _, .nan => false
  | .infinite s, .infinite t => s && !t
  | .infinite s, .finite .. => s
  | .finite .., .infinite t => !t
  | x@(.finite ..), y@(.finite ..) => x.units < y.units

/-- Less or equal in value; the two zeros are equal, and not-a-number equals nothing. -/
def le : Binary64 → Binary64 → Bool
  | .nan, _ => false
  | _, .nan => false
  | .infinite s, .infinite t => s || !t
  | .infinite s, .finite .. => s
  | .finite .., .infinite t => !t
  | x@(.finite ..), y@(.finite ..) => x.units ≤ y.units

instance : LT Binary64 := ⟨fun x y => lt x y = true⟩
instance : LE Binary64 := ⟨fun x y => le x y = true⟩
instance : DecidableLT Binary64 := fun x y => inferInstanceAs (Decidable (lt x y = true))
instance : DecidableLE Binary64 := fun x y => inferInstanceAs (Decidable (le x y = true))

/-- Equal in value. -/
def same (x y : Binary64) : Bool := le x y && le y x

end Binary64

end Settle

import Mathlib.Tactic.Lemma
import Settle.Number.Binary64

/-!
# The sign of a difference

Rounding keeps the sign: a number above zero, in units of the smallest positive one, is not rounded
to zero, and one below zero does not end above it. So a difference of numbers is above zero exactly
if the first is the greater one, though the difference may be rounded.
-/

namespace Settle.Binary64

variable {x y z : Binary64}

/-! ### Order -/

lemma lt_iff_units (hx : x.isFinite = true) (hy : y.isFinite = true) :
    x < y ↔ x.units < y.units := by
  cases x with
  | nan | infinite => cases hx
  | finite =>
    cases y with
    | nan | infinite => cases hy
    | finite => exact decide_eq_true_iff

lemma le_iff_units (hx : x.isFinite = true) (hy : y.isFinite = true) :
    x ≤ y ↔ x.units ≤ y.units := by
  cases x with
  | nan | infinite => cases hx
  | finite =>
    cases y with
    | nan | infinite => cases hy
    | finite => exact decide_eq_true_iff

lemma lt_iff_not_le (hx : x.isNaN = false) (hy : y.isNaN = false) : x < y ↔ ¬ y ≤ x := by
  cases x with
  | nan => cases hx
  | infinite s =>
    cases y with
    | nan => cases hy
    | infinite t => cases s <;> cases t <;> decide
    | finite => cases s <;> simp [LT.lt, LE.le, lt, le]
  | finite =>
    cases y with
    | nan => cases hy
    | infinite t => cases t <;> simp [LT.lt, LE.le, lt, le]
    | finite => rw [lt_iff_units rfl rfl, le_iff_units rfl rfl, Int.not_le]

lemma eq_of_infinite_le (h : infinite false ≤ x) : x = infinite false := by
  cases x with
  | nan | finite => cases h
  | infinite s =>
    cases s
    · rfl
    · cases h

lemma eq_of_le_infinite (h : x ≤ infinite true) : x = infinite true := by
  cases x with
  | nan | finite => cases h
  | infinite s =>
    cases s
    · cases h
    · rfl

lemma le_trans (hxy : x ≤ y) (hyz : y ≤ z) : x ≤ z := by
  cases y with
  | nan => cases x <;> cases hxy
  | infinite t =>
    cases t
    · rwa [eq_of_infinite_le hyz]
    · rwa [eq_of_le_infinite hxy]
  | finite =>
    cases x with
    | nan => cases hxy
    | infinite s =>
      cases s
      · cases hxy
      · cases z with
        | nan => cases hyz
        | infinite | finite => rfl
    | finite =>
      cases z with
      | nan => cases hyz
      | infinite u =>
        cases u
        · rfl
        · cases hyz
      | finite =>
        rw [le_iff_units rfl rfl] at *
        exact Int.le_trans hxy hyz

/-! ### Rounding -/

lemma twoTo_pos (n : Nat) : 0 < twoTo n := Nat.two_pow_pos n

lemma units_signedZero (negative : Bool) : (signedZero negative).units = 0 := by
  cases negative <;> rfl

lemma units_zero : (0 : Binary64).units = 0 := units_signedZero false

lemma not_pos_of_isNegative (h : x.isNegative = true) : ¬ 0 < x := by
  cases x with
  | nan => cases h
  | infinite s =>
    cases h
    decide
  | finite s m e hm =>
    cases h
    rw [lt_iff_units rfl rfl, units_zero, units, if_pos rfl]
    exact Int.not_lt.mpr (Int.neg_nonpos_of_nonneg (Int.natCast_nonneg _))

/-- A quotient that is not zero is rounded to a significand and an exponent; at the least exponent
the significand is the nearest one in units of the smallest positive number. -/
lemma exists_pack (negative : Bool) {num : Nat} (den : Nat) (h : num ≠ 0) :
    ∃ m e, ofRatio negative num den = pack negative m e ∧
      (e = -1074 → m = nearest (num * twoTo 1074) den) := by
  have hleast : -1074 ≤ max (-1074) (magnitude num den - 52) := Int.le_max_left _ _
  simp only [ofRatio, if_neg h]
  generalize max (-1074) (magnitude num den - 52) = e at hleast
  generalize hm : (if 0 ≤ e then nearest num (den * twoTo e.toNat)
    else nearest (num * twoTo (-e).toNat) den) = m
  split
  · exact ⟨_, _, rfl, by omega⟩
  · refine ⟨_, _, rfl, fun he => ?_⟩
    have hleast : (-(-1074 : Int)).toNat = 1074 := rfl
    rw [← hm, he, if_neg (by decide), hleast]

lemma nearest_mul {den : Nat} (num : Nat) (h : 0 < den) : nearest (num * den) den = num := by
  rw [nearest, Nat.mul_mod_left, Nat.mul_div_left num h]
  exact if_pos h

lemma isNegative_pack (negative : Bool) (m : Nat) (e : Int) :
    (pack negative m e).isNegative = negative := by
  unfold pack
  split <;> rfl

lemma isNaN_pack (negative : Bool) (m : Nat) (e : Int) : (pack negative m e).isNaN = false := by
  unfold pack
  split <;> rfl

lemma ofUnits_pos {n : Int} (h : 0 < n) : 0 < ofUnits n := by
  have hsign : decide (n < 0) = false := decide_eq_false (Int.not_lt.mpr (Int.le_of_lt h))
  have hn : n.natAbs ≠ 0 := Int.natAbs_ne_zero.mpr (Int.ne_of_gt h)
  obtain ⟨m, e, hpack, hleast⟩ := exists_pack false (twoTo 1074) hn
  rw [ofUnits, hsign, hpack, pack]
  split
  · next hcanonical =>
    have hm : 0 < m := by
      rcases hcanonical.2.2.2 with hm | he
      · exact Nat.lt_of_lt_of_le (twoTo_pos 52) hm
      · rw [hleast he, nearest_mul _ (twoTo_pos 1074)]
        exact Nat.pos_of_ne_zero hn
    rw [lt_iff_units rfl rfl, units_zero, units, if_neg Bool.false_ne_true]
    exact Int.natCast_pos.mpr (Nat.mul_pos hm (twoTo_pos _))
  · rfl

lemma not_ofUnits_pos {n : Int} (h : n < 0) : ¬ 0 < ofUnits n := by
  have hn : n.natAbs ≠ 0 := Int.natAbs_ne_zero.mpr (Int.ne_of_lt h)
  obtain ⟨m, e, hpack, -⟩ := exists_pack (decide (n < 0)) (twoTo 1074) hn
  refine not_pos_of_isNegative ?_
  rw [ofUnits, hpack, isNegative_pack]
  exact decide_eq_true h

lemma units_neg (x : Binary64) : (-x).units = -x.units := by
  cases x with
  | nan | infinite => rfl
  | finite s m e h =>
    cases s
    · rfl
    · exact (Int.neg_neg _).symm

lemma isNaN_ofUnits {n : Int} (h : n ≠ 0) : (ofUnits n).isNaN = false := by
  obtain ⟨m, e, hpack, -⟩ := exists_pack (decide (n < 0)) (twoTo 1074) (Int.natAbs_ne_zero.mpr h)
  rw [ofUnits, hpack]
  exact isNaN_pack ..

/-- A finite number and another one have a sum. -/
lemma isNaN_add (hx : x.isFinite = true) (hy : y.isNaN = false) : (x + y).isNaN = false := by
  cases x with
  | nan | infinite => cases hx
  | finite s m e hm =>
    cases y with
    | nan => cases hy
    | infinite t => rfl
    | finite t n k hn =>
      have hadd : finite s m e hm + finite t n k hn
          = if (finite s m e hm).units + (finite t n k hn).units = 0 then signedZero (s && t)
            else ofUnits ((finite s m e hm).units + (finite t n k hn).units) := rfl
      rw [hadd]
      split
      · rfl
      · next hne => exact isNaN_ofUnits hne

lemma isNaN_of_pos (h : 0 < x) : x.isNaN = false := by
  cases x with
  | nan => cases h
  | infinite | finite => rfl

lemma isNaN_of_isFinite (h : x.isFinite = true) : x.isNaN = false := by
  cases x with
  | nan | infinite => cases h
  | finite => rfl

/-- What is taken away has to be finite: infinities of one sign have no difference. -/
theorem sub_pos_iff (hx : x.isNaN = false) (hy : y.isFinite = true) : 0 < x - y ↔ y < x := by
  cases y with
  | nan | infinite => cases hy
  | finite t n k hn =>
    cases x with
    | nan => cases hx
    | infinite s => cases s <;> exact Iff.rfl
    | finite s m e hm =>
      have hlt := lt_iff_units (x := finite t n k hn) (y := finite s m e hm) rfl rfl
      have hsub : finite s m e hm - finite t n k hn
          = if (finite s m e hm).units - (finite t n k hn).units = 0 then signedZero (s && !t)
            else ofUnits ((finite s m e hm).units - (finite t n k hn).units) := by
        rw [Int.sub_eq_add_neg, ← units_neg]
        rfl
      rw [hlt, hsub]
      rcases Int.lt_trichotomy (finite t n k hn).units (finite s m e hm).units with h | h | h
      · rw [if_neg (by omega)]
        exact iff_of_true (ofUnits_pos (by omega)) h
      · rw [if_pos (by omega)]
        refine iff_of_false ?_ (by omega)
        rw [lt_iff_units rfl rfl, units_signedZero, units_zero]
        omega
      · rw [if_neg (by omega)]
        exact iff_of_false (not_ofUnits_pos (by omega)) (by omega)

end Settle.Binary64

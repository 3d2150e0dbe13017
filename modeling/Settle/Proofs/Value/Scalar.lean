import Settle.Proofs.Number.Sign
import Settle.Proofs.Value.Occurs
import Settle.Value.Scalar

/-!
# Scalars that have a text

A whole floating-point number is below `2 ^ 1024`, so it has much fewer digits than a numeral may
have. A value whose integers can be written is therefore no scalar, or has a text in either style.
-/

namespace Settle

namespace Binary64

private lemma twoTo_le_tenTo {m n : Nat} (h : m ≤ n) : twoTo m ≤ tenTo n :=
  Nat.le_trans (Nat.pow_le_pow_left (by decide) m) (Nat.pow_le_pow_right (by decide) h)

private lemma mul_twoTo_lt {m a b c k : Nat} (hm : m < twoTo a) (hk : k ≤ b) (hc : a + b = c) :
    m * twoTo k < twoTo c := by
  subst hc
  have hsplit : twoTo (a + b) = twoTo a * twoTo b := Nat.pow_add 2 a b
  rw [hsplit]
  exact Nat.mul_lt_mul_of_lt_of_le hm (Nat.pow_le_pow_right Nat.two_pos hk) (twoTo_pos b)

private lemma div_twoTo_lt {m a b c : Nat} (hm : m < twoTo c) (hc : a + b = c) :
    m / twoTo a < twoTo b := by
  subst hc
  have hsplit : twoTo (a + b) = twoTo a * twoTo b := Nat.pow_add 2 a b
  exact Nat.div_lt_of_lt_mul (hsplit ▸ hm)

lemma natAbs_units_lt (x : Binary64) : x.units.natAbs < twoTo 2098 := by
  cases x with
  | nan | infinite => exact twoTo_pos 2098
  | finite negative m e h =>
    have he : (e + 1074).toNat ≤ 2045 := by
      have := h.2.2.1
      omega
    have habs : (units (.finite negative m e h)).natAbs = m * twoTo (e + 1074).toNat := by
      cases negative <;> simp [units, Int.natAbs_mul]
    rw [habs]
    exact mul_twoTo_lt h.1 he rfl

/-- A whole floating-point number has few digits. -/
lemma tooLong_truncate (x : Binary64) : Decimal.tooLong x.truncate = false := by
  have hlt : x.truncate.natAbs < twoTo 1024 := by
    rw [truncate, Int.natAbs_tdiv, Int.natAbs_natCast]
    exact div_twoTo_lt x.natAbs_units_lt rfl
  have hle : twoTo 1024 ≤ tenTo Decimal.digitLimit := twoTo_le_tenTo (by decide)
  exact decide_eq_false (Nat.not_le.mpr (Nat.lt_of_lt_of_le hlt hle))

end Binary64

namespace Value

lemma Writable.scalarText_ne_tooLong {v : Value} (h : v.Writable) (style : FractionStyle) :
    v.scalarText style ≠ .error .tooLong := by
  cases v with
  | int n => simp [scalarText, wholeText, h n .whole]
  | float x =>
    simp only [scalarText, wholeText, x.tooLong_truncate]
    split
    · simp
    · cases style <;> simp
  | _ => simp [scalarText]

/-- Texts, booleans and numbers have a text to match. -/
def IsScalar : Value → Prop
  | .str _ | .bool _ | .int _ | .float _ => True
  | .null | .list _ | .map _             => False

lemma isScalar_of_scalarText {v : Value} {style : FractionStyle} {t : Text}
    (h : v.scalarText style = .ok t) : v.IsScalar := by
  cases v with
  | null | list | map => cases h
  | str | bool | int | float => trivial

lemma not_isScalar_of_scalarText {v : Value} {style : FractionStyle} {name : Text}
    (h : v.scalarText style = .error (.notScalar name)) : ¬ v.IsScalar := by
  have hwhole : ∀ n, wholeText n ≠ .error (.notScalar name) := by
    intro n
    unfold wholeText
    split <;> simp
  cases v with
  | null | list | map => exact id
  | str | bool => cases h
  | int n =>
    rw [scalarText] at h
    exact absurd h (hwhole n)
  | float x =>
    simp only [scalarText] at h
    split at h
    · exact absurd h (hwhole _)
    · cases style <;> cases h

lemma exists_scalarText {v : Value} (hscalar : v.IsScalar) (hwritable : v.Writable)
    (style : FractionStyle) : ∃ t, v.scalarText style = .ok t := by
  cases h : v.scalarText style with
  | ok t => exact ⟨t, rfl⟩
  | error e =>
    cases e with
    | tooLong => exact absurd h (hwritable.scalarText_ne_tooLong style)
    | notScalar name => exact absurd hscalar (not_isScalar_of_scalarText h)

end Value

end Settle

import Mathlib.Algebra.Group.Nat.Defs
import Mathlib.Data.List.Induction
import Mathlib.Tactic.Lemma
import Settle.Number.Literal

/-!
# Integers that are read

A numeral of more digits than one may have is not read, so an integer that is read from a text can
be written again. The difference of two natural numbers that can be written can be written.
-/

namespace Settle

namespace Decimal

lemma lt_tenTo {m k limit : Nat} (h : m < 10 ^ k) (hk : k ≤ limit) : m < tenTo limit :=
  Nat.lt_of_lt_of_le h (Nat.pow_le_pow_right (by decide) hk)

lemma tooLong_eq_false_iff {n : Int} : tooLong n = false ↔ n.natAbs < tenTo digitLimit := by
  simp [tooLong]

lemma tooLong_sub {m n : Nat} (hm : tooLong m = false) (hn : tooLong n = false) :
    tooLong (m - n) = false := by
  rw [tooLong_eq_false_iff] at hm hn ⊢
  omega

end Decimal

namespace Literal

lemma digitsValue?_lt {base : Nat} {ds : Text} {n : Nat}
    (h : digitsValue? base ds = some n) : n < base ^ ds.length := by
  induction ds using List.reverseRecOn generalizing n with
  | nil =>
    cases h
    exact Nat.one_pos
  | append_singleton ds d ih =>
    rw [digitsValue?, List.foldlM_append] at h
    obtain ⟨m, hm, hd⟩ := Option.bind_eq_some_iff.mp h
    have hlt : m + 1 ≤ base ^ ds.length := ih hm
    simp only [List.foldlM_cons, List.foldlM_nil, Option.bind_eq_bind,
      Option.bind_eq_some_iff] at hd
    obtain ⟨_, ⟨digit, -, hdigit⟩, hn⟩ := hd
    cases hn
    split at hdigit
    · next hbase =>
      cases hdigit
      calc base * m + digit < base * (m + 1) := by rw [Nat.mul_succ]; omega
        _ ≤ base * base ^ ds.length := Nat.mul_le_mul_left base hlt
        _ = base ^ (ds ++ [d]).length := by
          rw [List.length_append, List.length_singleton, Nat.pow_succ']
    · cases hdigit

/-- A numeral that is read has no more digits than one may have. -/
lemma tooLong_ofDigits {t ds : Text} {negative : Bool} {n : Int}
    (h : ofDigits 10 t negative ds = .ok n) : Decimal.tooLong n = false := by
  unfold ofDigits at h
  split at h
  · cases h
  · next m hm =>
    split at hm
    · cases hm
    split at h
    · cases h
    · next hlimit =>
      have hlength : ds.length ≤ Decimal.digitLimit := by simpa using hlimit
      have hlt := Decimal.lt_tenTo (digitsValue?_lt hm) hlength
      cases h
      rw [Decimal.tooLong_eq_false_iff]
      cases negative
      · exact hlt
      · rwa [if_pos rfl, Int.natAbs_neg]

lemma tooLong_integer {t : Text} {n : Int} (h : integer t = .ok n) :
    Decimal.tooLong n = false := by
  simp only [integer] at h
  split at h
  · cases h
  · exact tooLong_ofDigits h

end Literal

end Settle

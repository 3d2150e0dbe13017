import Mathlib.Algebra.Order.Archimedean.Basic
import Mathlib.Algebra.Order.Monoid.WithTop
import Mathlib.Data.Rat.Floor
import Mathlib.Tactic.Linarith
import Settle.Clock.Deadline

/-!
# Exact times

Rational numbers as a scale of time. On it pauses and delays that are not negative add up, the
later and the earlier of two times are their maximum and minimum, and a deadline is an element of
`WithTop ℚ`, the top of which stands for a deadline that does not pass.
-/

namespace Settle

namespace TimeScale

instance : TimeScale ℚ where
  decidableLT _ _ := inferInstance
  decidableLE _ _ := inferInstance

lemma later_eq_max (s t : ℚ) : later s t = max s t := by
  unfold later
  split_ifs with h
  · exact (max_eq_right (le_of_lt h)).symm
  · exact (max_eq_left (not_lt.mp h)).symm

lemma earlier_eq_min (s t : ℚ) : earlier s t = min s t := by
  unfold earlier
  split_ifs with h
  · exact (min_eq_right (le_of_lt h)).symm
  · exact (min_eq_left (not_lt.mp h)).symm

lemma pause_of_nonneg (now : ℚ) {span : ℚ} (h : 0 ≤ span) : pause now span = now + span := by
  unfold pause
  split_ifs with h'
  · rw [le_antisymm h' h, add_zero]
  · rfl

end TimeScale

namespace Deadline

/-- The time at which the deadline passes, the top if it does not. -/
def expiry (d : Deadline ℚ) : WithTop ℚ :=
  match d.expiresAt? with
  | none   => ⊤
  | some e => e

@[simp] lemma expiry_starting (now timeout : ℚ) :
    (starting now timeout).expiry = ((now + timeout : ℚ) : WithTop ℚ) := rfl

@[simp] lemma expiry_never : (never : Deadline ℚ).expiry = ⊤ := rfl

variable (d : Deadline ℚ)

lemma expired_iff {t : ℚ} : d.expired t = true ↔ d.expiry ≤ t := by
  cases h : d.expiresAt? <;> simp [expired, expiry, h]

lemma not_expired_iff {t : ℚ} : d.expired t = false ↔ (t : WithTop ℚ) < d.expiry := by
  rw [← not_le, ← d.expired_iff, Bool.not_eq_true]

/-- A pause lasts for its span or until the deadline, and not at all behind the deadline. -/
lemma coe_pause (now : ℚ) {span : ℚ} (h : 0 ≤ span) :
    (d.pause now span : WithTop ℚ) = min ↑(now + span) (max d.expiry now) := by
  cases he : d.expiresAt? with
  | none =>
    have hpause : d.pause now span = now + span := by
      simp [pause, clip, remaining?, he, TimeScale.pause_of_nonneg now h]
    simp [hpause, expiry, he]
  | some e =>
    have hclip : 0 ≤ min span (max 0 (e - now)) := le_min h (le_max_left _ _)
    have hpause : d.pause now span = now + min span (max 0 (e - now)) := by
      simp only [pause, clip, remaining?, he, Option.map_some, TimeScale.later_eq_max,
        TimeScale.earlier_eq_min]
      exact TimeScale.pause_of_nonneg now hclip
    rw [hpause, ← min_add_add_left, ← max_add_add_left, add_zero, add_sub_cancel, max_comm]
    simp [expiry, he]

lemma le_pause (now span : ℚ) : now ≤ d.pause now span := by
  unfold pause TimeScale.pause
  split_ifs with h
  · exact le_refl now
  · exact le_add_of_nonneg_right (le_of_not_ge h)

section Pause

variable {d} {t start last : ℚ} (time : (t : WithTop ℚ) = min ↑start (max d.expiry ↑last))
include time

/-- A pause that ends before the deadline has not been cut short. -/
lemma eq_start_of_pause (h : (t : WithTop ℚ) < d.expiry) : t = start := by
  refine WithTop.coe_injective (time.trans (min_eq_left ?_))
  by_contra hlt
  rw [min_eq_right (le_of_not_ge hlt)] at time
  exact absurd (time ▸ le_max_left _ _) (not_le.mpr h)

lemma pause_le_start : t ≤ start := by
  rw [← WithTop.coe_le_coe, time]
  exact min_le_left _ _

/-- A pause that ends behind the deadline ends at it, or at once. -/
lemma eq_max_of_pause (hlast : last ≤ start) (h : d.expiry ≤ t) :
    (t : WithTop ℚ) = max d.expiry ↑last := by
  have hstart : (t : WithTop ℚ) ≤ start := by exact_mod_cast pause_le_start time
  rwa [min_eq_right (max_le (h.trans hstart) (by exact_mod_cast hlast))] at time

end Pause

end Deadline

end Settle

import Mathlib.Algebra.Order.Ring.WithTop
import Settle.Apply.Backoff
import Settle.Proofs.Clock.Exact

/-!
# Times in order

What is shown of the order of calls needs little of a scale of time: that its times are in a total
order and that no span above zero leads back. Rational numbers are such a scale, and so are they
with an infinite time on top, on which every number of seconds but not-a-number can be read.
-/

namespace Settle

/-- A scale on which times are in a total order, and pauses do not lead back. -/
class Chronological (τ : Type) [TimeScale τ] : Prop where
  le_refl (t : τ) : t ≤ t
  le_trans {s t u : τ} (h : s ≤ t) (h' : t ≤ u) : s ≤ u
  lt_of_not_le {s t : τ} (h : ¬ s ≤ t) : t < s
  le_add {t span : τ} (h : ¬ span ≤ 0) : t ≤ t + span

instance : Chronological ℚ where
  le_refl := le_refl
  le_trans := le_trans
  lt_of_not_le := lt_of_not_ge
  le_add h := le_add_of_nonneg_right (le_of_not_ge h)

/-! ### Times with an infinite one -/

/-- Rational times, and an infinite one behind them all. -/
def Extended : Type := WithTop ℚ

namespace Extended

def ofRat (q : ℚ) : Extended := (q : WithTop ℚ)

instance : TimeScale Extended where
  toZero := inferInstanceAs (Zero (WithTop ℚ))
  toAdd := inferInstanceAs (Add (WithTop ℚ))
  toSub := inferInstanceAs (Sub (WithTop ℚ))
  toLT := inferInstanceAs (LT (WithTop ℚ))
  toLE := inferInstanceAs (LE (WithTop ℚ))
  decidableLT := inferInstanceAs (DecidableLT (WithTop ℚ))
  decidableLE := inferInstanceAs (DecidableLE (WithTop ℚ))

def power (x : WithTop ℚ) (n : Nat) : WithTop ℚ := npowRec n x

instance : GrowingScale Extended where
  toMul := inferInstanceAs (Mul (WithTop ℚ))
  power? x n := some (power x n)

lemma le_add_of_not_le {t span : WithTop ℚ} (h : ¬ span ≤ 0) : t ≤ t + span :=
  le_add_of_nonneg_right (le_of_not_ge h)

instance : Chronological Extended where
  le_refl := @le_refl (WithTop ℚ) _
  le_trans {s t u} := @le_trans (WithTop ℚ) _ s t u
  lt_of_not_le {s t} := @lt_of_not_ge (WithTop ℚ) _ t s
  le_add := le_add_of_not_le

end Extended

/-- The exact number of seconds, the infinite time if there is no such number. -/
def Binary64.seconds (x : Binary64) : Extended :=
  if x.isFinite then .ofRat (x.units / 2 ^ 1074) else (⊤ : WithTop ℚ)

/-! ### Pauses and deadlines -/

section Chronological

variable {τ : Type} [TimeScale τ] [Chronological τ]

namespace TimeScale

lemma le_pause (now span : τ) : now ≤ pause now span := by
  unfold pause
  split
  · exact Chronological.le_refl now
  · next h => exact Chronological.le_add h

omit [Chronological τ] in
lemma le_earlier {s t u : τ} (hs : u ≤ s) (ht : u ≤ t) : u ≤ earlier s t := by
  unfold earlier
  split
  · exact ht
  · exact hs

lemma le_later (s t : τ) : t ≤ later s t := by
  unfold later
  split
  · exact Chronological.le_refl t
  · next h => exact by_contra fun hle => h (Chronological.lt_of_not_le hle)

end TimeScale

namespace Deadline

lemma lt_of_not_expired {now timeout t : τ} (h : (starting now timeout).expired t = false) :
    t < now + timeout := by
  refine Chronological.lt_of_not_le ?_
  simpa [starting, expired] using h

end Deadline

end Chronological

end Settle

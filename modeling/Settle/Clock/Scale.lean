import Settle.Number.Binary64

/-!
# Scales of time

Waiting only adds, subtracts and compares times, so it can be told over any scale that does: over
the floating-point seconds of a clock, or over exact numbers.
-/

namespace Settle

/-- The times of a clock, and the spans between them. -/
class TimeScale (τ : Type) extends Zero τ, Add τ, Sub τ, LT τ, LE τ where
  decidableLT (s t : τ) : Decidable (s < t)
  decidableLE (s t : τ) : Decidable (s ≤ t)

instance decidableTimeLT {τ : Type} [TimeScale τ] (s t : τ) : Decidable (s < t) :=
  TimeScale.decidableLT s t

instance decidableTimeLE {τ : Type} [TimeScale τ] (s t : τ) : Decidable (s ≤ t) :=
  TimeScale.decidableLE s t

namespace TimeScale

instance : TimeScale Binary64 where
  decidableLT _ _ := inferInstance
  decidableLE _ _ := inferInstance

variable {τ : Type} [TimeScale τ]

/-- The later of two times; the first one if neither is. -/
def later (s t : τ) : τ := if s < t then t else s

/-- The earlier of two times; the first one if neither is. -/
def earlier (s t : τ) : τ := if t < s then t else s

/-- When a pause that begins at `now` ends; there is no pause of less than nothing. -/
def pause (now span : τ) : τ := if span ≤ 0 then now else now + span

end TimeScale

end Settle

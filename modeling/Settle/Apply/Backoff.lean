import Settle.Clock.Scale

/-!
# Backing off

The pauses between attempts grow by a constant factor up to a limit. Attempts end when a timeout
has passed or when as many retries have been made as are allowed, where no number stands for any
number.
-/

namespace Settle

/-- Spans of time that can grow. -/
class GrowingScale (τ : Type) extends TimeScale τ, Mul τ where
  /-- The power of a factor, unless it is too large. -/
  power? : τ → Nat → Option τ

instance : GrowingScale Binary64 where
  power? := Binary64.pow?

structure Backoff (τ : Type) where
  timeout  : τ
  /-- How many retries are allowed; zero stands for any number. -/
  retries  : Nat
  initial  : τ
  limit    : τ
  factor   : τ

namespace Backoff

variable {τ : Type} [GrowingScale τ]

/-- The pause after an attempt, counted from one. -/
def span (b : Backoff τ) (attempt : Nat) : τ :=
  match GrowingScale.power? b.factor (attempt - 1) with
  | none   => b.limit
  | some p => TimeScale.later 0 (TimeScale.earlier (b.initial * p) b.limit)

/-- No attempt follows the one that has come back at `now`. -/
def isOver (b : Backoff τ) (start : τ) (attempt : Nat) (now : τ) : Bool :=
  decide (b.timeout ≤ now - start) || (b.retries != 0 && decide (b.retries + 1 ≤ attempt))

end Backoff

end Settle

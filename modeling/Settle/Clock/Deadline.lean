import Settle.Clock.Scale
import Settle.Number.Shortest

/-!
# Deadlines

A point in time after which waiting has to stop. Pauses are clipped to the time that remains, so
nothing outlives a deadline by a pause.
-/

namespace Settle

/-- A timeout and the time at which it ends, if there is one. -/
structure Deadline (τ : Type) where
  timeout?   : Option τ
  expiresAt? : Option τ

namespace Deadline

variable {τ : Type} [TimeScale τ]

/-- A deadline that is set at a time. -/
def starting (now timeout : τ) : Deadline τ := ⟨some timeout, some (now + timeout)⟩

/-- A deadline that does not pass. -/
def never : Deadline τ := ⟨none, none⟩

/-- The time that is left; none without a deadline. -/
def remaining? (d : Deadline τ) (now : τ) : Option τ :=
  d.expiresAt?.map fun e => TimeScale.later 0 (e - now)

/-- The deadline has passed. -/
def expired (d : Deadline τ) (now : τ) : Bool := d.expiresAt?.any fun e => decide (e ≤ now)

/-- As much of a span as remains. -/
def clip (d : Deadline τ) (now span : τ) : τ :=
  match d.remaining? now with
  | none   => span
  | some r => TimeScale.earlier span r

/-- When a pause of a span ends. -/
def pause (d : Deadline τ) (now span : τ) : τ := TimeScale.pause now (d.clip now span)

@[simp] theorem remaining?_never (now : τ) : (never : Deadline τ).remaining? now = none := rfl

@[simp] theorem expired_never (now : τ) : (never : Deadline τ).expired now = false := rfl

@[simp] theorem clip_never (now span : τ) : (never : Deadline τ).clip now span = span := rfl

/-- The deadline in messages. -/
def text (d : Deadline Binary64) (now : Binary64) : Text :=
  let seconds : Option Binary64 → Text
    | none   => "None"
    | some x => x.text
  "Deadline(timeout=" ++ seconds d.timeout? ++ ", remaining=" ++ seconds (d.remaining? now) ++ ")"

end Deadline

end Settle

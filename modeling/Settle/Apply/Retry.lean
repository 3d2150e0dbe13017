import Settle.Apply.Backoff
import Settle.Clock.Event

/-!
# Retrying a write

A write is attempted until it succeeds, fails for good, or the backoff says that it is over.
-/

namespace Settle

structure Retry (τ : Type) where
  label   : Text
  backoff : Backoff τ

namespace Retry

variable {τ α : Type} [GrowingScale τ]

/-- The attempts after `made` others, the first of which began at `start`, if they end within as
many attempts. -/
def runFrom (r : Retry τ) (source : Source τ α) (start : τ) :
    Nat → Nat → τ → Option (Ended τ α)
  | 0,        _,    _   => none
  | fuel + 1, made, now =>
    let reply  := source made
    let back   := TimeScale.pause now reply.delay
    let events := reply.events .write now
    match reply.result with
    | .ok v => some ⟨back, .ok v, events ++ [.notice (.applied r.label)]⟩
    | .error (.permanent cause) =>
      some ⟨back, .error cause, events ++ [.notice (.failedForGood r.label cause)]⟩
    | .error e =>
      if r.backoff.isOver start (made + 1) back then
        some ⟨back, .error (.exhausted (made + 1) e),
          events ++ [.notice (.givingUp r.label (made + 1))]⟩
      else
        let span := r.backoff.span (made + 1)
        (runFrom r source start fuel (made + 1) (TimeScale.pause back span)).map
          (·.after (events ++ [.notice (.retrying span e), .sleep back span]))

/-- The attempts that begin at a time, if they end within as many. -/
def run (r : Retry τ) (source : Source τ α) (fuel : Nat) (now : τ) : Option (Ended τ α) :=
  (r.runFrom source now fuel 0 now).map (·.after [.notice (.applying r.label)])

end Retry

end Settle

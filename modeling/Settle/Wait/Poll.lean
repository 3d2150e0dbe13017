import Settle.Clock.Deadline
import Settle.Clock.Event
import Settle.Wait.Target

/-!
# Polling

An object is read again and again, at a fixed pause after each read has come back, until a read
decides the wait or the deadline has passed. The deadline is looked at before each read, so a
read that has begun is always judged.
-/

namespace Settle

structure Poll (τ : Type) where
  target   : Target
  name     : Text
  deadline : Deadline τ
  interval : τ

namespace Poll

/-- Where a wait stands. -/
inductive State (τ : Type) where
  /-- About to look at the deadline. -/
  | ready (now : τ)
  /-- A read comes back at a time. -/
  | reading (back : τ) (result : Except Failure Value)
  | finished (time : τ) (outcome : Except Failure Unit)

variable {τ : Type}

namespace State

/-- The time of the next step, or of the end. -/
def time : State τ → τ
  | .ready t      => t
  | .reading t _  => t
  | .finished t _ => t

/-- How the wait has ended, if it has. -/
def outcome? : State τ → Option (Except Failure Unit)
  | .finished _ o => some o
  | _             => none

end State

/-- What is told when the wait begins. -/
def opening (p : Poll τ) : Notice τ :=
  match p.target with
  | .state s => .awaiting s.reason p.name
  | .removal => .awaitingRemoval p.name

/-- What is told when the wait has succeeded. -/
def closing (p : Poll τ) : Notice τ :=
  match p.target with
  | .state _ => .reached p.name
  | .removal => .removed p.name

/-- What is told at an end. -/
def farewell (p : Poll τ) : Except Failure Unit → List (Event τ)
  | .ok _    => [.notice p.closing]
  | .error _ => []

variable [TimeScale τ]

/-- One step: `reply` is what a read brings that begins with it. -/
def step (p : Poll τ) (reply : Reply τ Value) : State τ → State τ × List (Event τ)
  | .ready now =>
    if p.deadline.expired now then
      (.finished now (.error (.expired (p.target.reason p.name))), [])
    else (.reading (TimeScale.pause now reply.delay) reply.result, reply.events .read now)
  | .reading back result =>
    match p.target.judge result with
    | some o => (.finished back o, p.farewell o)
    | none   => (.ready (p.deadline.pause back p.interval), [])
  | .finished t o => (.finished t o, [])

/-- How often the object has been read after a step to this state. -/
def count (reads : Nat) : State τ → Nat
  | .reading .. => reads + 1
  | _           => reads

/-- The wait from a state on, if it ends within as many steps. -/
def runFrom (p : Poll τ) (source : Source τ Value) :
    Nat → Nat → State τ → Option (Ended τ Unit)
  | _,        _,     .finished t o => some ⟨t, o, []⟩
  | 0,        _,     _             => none
  | fuel + 1, reads, s             =>
    let (next, events) := p.step (source reads) s
    (runFrom p source fuel (count reads next) next).map (·.after events)

/-- The wait that begins at a time, if it ends within as many steps. -/
def run (p : Poll τ) (source : Source τ Value) (fuel : Nat) (now : τ) : Option (Ended τ Unit) :=
  (p.runFrom source fuel 0 (.ready now)).map (·.after [.notice p.opening])

end Poll

end Settle

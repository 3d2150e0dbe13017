import Settle.Rule
import Settle.Wait.Poll

/-!
# Waiting under rules to abort on

A wait goes on beside a guard, which pauses, reads the object on its own, checks the rules on
what it has read, and pauses again. The guard ends both: as soon as the wait has ended, when a
rule matches, or when the deadline has passed at the end of a pause. A check that has begun is
always brought to its end, and an abort that it finds comes before whatever the wait has come to
in the meantime. A wait that is still going on at the end is cancelled: whatever it waits for at
that time, it goes no further.

The two take their steps in the order of time. Steps that are due at the same time may be taken
in any order; the race as it is run lets the wait go first.
-/

namespace Settle

structure Race (τ : Type) where
  poll     : Poll τ
  rules    : List Rule
  /-- The pause between checks. -/
  interval : τ

/-- What reads and checks come back with, by how many of both have been made before. -/
structure Feed (τ : Type) where
  read  : Nat → Nat → Reply τ Value
  check : Nat → Nat → Reply τ Value

namespace Feed

variable {τ : Type}

/-- Reads and checks take turns at one source. -/
def shared (s : Source τ Value) : Feed τ := ⟨fun m n => s (m + n), fun m n => s (m + n)⟩

/-- Reads and checks have a source each. -/
def separate (reads checks : Source τ Value) : Feed τ := ⟨fun m _ => reads m, fun _ n => checks n⟩

end Feed

namespace Race

/-- Where the guard stands. -/
inductive Guard (τ : Type) where
  /-- A pause ends at a time. -/
  | pausing (wake : τ)
  /-- A check comes back at a time. -/
  | checking (back : τ) (result : Except Failure Value)
  | finished (time : τ) (outcome : Except Failure Unit)

/-- Which of the two takes a step. -/
inductive Side where
  | wait
  | guard
  deriving DecidableEq

structure State (τ : Type) where
  wait      : Poll.State τ
  guard     : Guard τ
  reads     : Nat
  checks    : Nat
  /-- The wait has been cancelled. -/
  cancelled : Bool

variable {τ : Type}

namespace Guard

/-- The time of the next step, or of the end. -/
def time : Guard τ → τ
  | .pausing t    => t
  | .checking t _ => t
  | .finished t _ => t

/-- How the race has ended, if it has. -/
def outcome? : Guard τ → Option (Except Failure Unit)
  | .finished _ o => some o
  | _             => none

end Guard

/-- At the end of the guard, a wait that goes on is cancelled. -/
def State.close (s : State τ) : State τ :=
  { s with cancelled := s.cancelled || s.guard.outcome?.isSome && s.wait.outcome?.isNone }

/-- What a check finds in the result of its read; nothing if the read failed. -/
def find (name : Text) (rules : List Rule) : Except Failure Value → Except Failure (Option Abort)
  | .ok v    => Rule.firstMatch name v rules
  | .error _ => .ok none

variable [TimeScale τ]

/-- The pause that begins at a time. -/
def rest (r : Race τ) (now : τ) : Guard τ := .pausing (r.poll.deadline.pause now r.interval)

/-- A step of the guard, with the state of the wait; `reply` is what a check brings that begins
with it. -/
def guardStep (r : Race τ) (reply : Reply τ Value) (wait : Poll.State τ) :
    Guard τ → Guard τ × List (Event τ)
  | .pausing wake =>
    match wait with
    | .finished t o => (.finished t o, [])
    | _ =>
      if r.poll.deadline.expired wake then
        (.finished wake (.error (.expired ("resource " ++ r.poll.name))), [])
      else (.checking (TimeScale.pause wake reply.delay) reply.result, reply.events .check wake)
  | .checking back result =>
    match find r.poll.name r.rules result with
    | .error e => (.finished back (.error e), [])
    | .ok (some abort) =>
      (.finished back (.error (.aborted abort)), [.notice (.aborting r.poll.name abort)])
    | .ok none =>
      match wait with
      | .finished _ o => (.finished back o, [])
      | _             => (r.rest back, [])
  | .finished t o => (.finished t o, [])

/-- How many checks have been made after a step to this state. -/
def count (checks : Nat) : Guard τ → Nat
  | .checking .. => checks + 1
  | _            => checks

/-- A step of one of the two; a wait that has been cancelled takes none. -/
def step (r : Race τ) (feed : Feed τ) (s : State τ) : Side → State τ × List (Event τ)
  | .wait =>
    if s.cancelled then (s, [])
    else
      let (next, events) := r.poll.step (feed.read s.reads s.checks) s.wait
      ({ s with wait := next, reads := Poll.count s.reads next }, events)
  | .guard =>
    let (next, events) := r.guardStep (feed.check s.reads s.checks) s.wait s.guard
    (State.close { s with guard := next, checks := count s.checks next }, events)

/-- Whose turn it may be: the wait's as long as it has not ended and is not behind, and the
guard's when the wait has ended or is not behind. -/
def mayStep (s : State τ) : Side → Bool
  | .wait  => s.wait.outcome?.isNone && decide (s.wait.time ≤ s.guard.time)
  | .guard => s.wait.outcome?.isSome || decide (s.guard.time ≤ s.wait.time)

/-- Whose turn it is: the wait's if it may be. -/
def turn (s : State τ) : Side := if mayStep s .wait then .wait else .guard

/-- At the start, the wait takes its first step before the guard begins to pause. -/
def start (r : Race τ) (feed : Feed τ) (now : τ) : State τ × List (Event τ) :=
  r.step feed ⟨.ready now, r.rest now, 0, 0, false⟩ .wait

/-- The race from a state on, if it ends within as many steps. -/
def runFrom (r : Race τ) (feed : Feed τ) : Nat → State τ → Option (Ended τ Unit)
  | _,        ⟨_, .finished t o, _, _, _⟩ => some ⟨t, o, []⟩
  | 0,        _                           => none
  | fuel + 1, s                           =>
    let (next, events) := r.step feed s (turn s)
    (runFrom r feed fuel next).map (·.after events)

/-- The race that begins at a time, if it ends within as many steps; without rules, the wait
alone. -/
def run (r : Race τ) (feed : Feed τ) (fuel : Nat) (now : τ) : Option (Ended τ Unit) :=
  if r.rules.isEmpty then r.poll.run (fun n => feed.read n 0) fuel now
  else
    let (first, events) := r.start feed now
    (r.runFrom feed fuel first).map (·.after (.notice r.poll.opening :: events))

/-- One check at a time, without a wait. -/
def checkOnce (name : Text) (rules : List Rule) (reply : Reply τ Value) (now : τ) :
    Ended τ Unit :=
  let outcome : Except Failure Unit := match find name rules reply.result with
    | .error e         => .error e
    | .ok (some abort) => .error (.aborted abort)
    | .ok none         => .ok ()
  ⟨TimeScale.pause now reply.delay, outcome, reply.events .check now⟩

end Race

end Settle

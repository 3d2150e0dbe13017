import Settle.Apply.Retry
import Settle.Config.Basic
import Settle.Config.Settings
import Settle.Wait.Race

/-!
# Writing and waiting

One deadline bounds the attempts to write an object and the wait that follows. After a write, the
object is waited for under the rules to abort on; with rules but nothing to wait for, they are
checked once. After a deletion, the wait is for the object to be gone, whatever the wait and the
rules are otherwise.
-/

namespace Settle

structure Session (τ : Type) where
  name         : Text
  target?      : Option Target
  /-- What the target is called. -/
  strategy?    : Option Text
  rules        : List Rule
  /-- The pause between reads. -/
  interval     : τ
  checkPause   : τ
  removalPause : τ
  /-- Its timeout is the one of the operation. -/
  backoff      : Backoff τ

namespace Session

/-- The session that a configuration and the settings ask for, with a timeout. -/
def ofConfig (name : Text) (c : Config) (s : Settings) (shape? : Option Shape) (hints : Hints)
    (timeout : Binary64) : Session Binary64 where
  name         := name
  target?      := Target.ofBlock? shape? hints c.wait?
  strategy?    := c.strategy?
  rules        := c.rules
  interval     := s.readInterval
  checkPause   := s.checkInterval
  removalPause := s.removalInterval
  backoff      := s.backoff timeout

variable {τ α : Type}

/-- What follows a first part that has succeeded, with its result. -/
def followedBy (first : Ended τ α) (rest : τ → Option (Ended τ Unit)) : Option (Ended τ α) :=
  match first.outcome with
  | .error _ => some first
  | .ok v    => (rest first.time).map fun e =>
    ⟨e.time, e.outcome.map fun _ => v, first.events ++ e.events⟩

section TimeScale

variable [TimeScale τ]

/-- The wait that begins at a time. -/
def await (s : Session τ) (deadline : Deadline τ) (feed : Feed τ) (fuel : Nat) (now : τ) :
    Option (Ended τ Unit) :=
  match s.target? with
  | none =>
    if s.rules.isEmpty then some ⟨now, .ok (), []⟩
    else some (Race.checkOnce s.name s.rules (feed.check 0 0) now)
  | some target =>
    let race : Race τ := ⟨⟨target, s.name, deadline, s.interval⟩, s.rules, s.checkPause⟩
    race.run feed fuel now

/-- The wait for the object to be gone. -/
def awaitRemoval (s : Session τ) (deadline : Deadline τ) (reads : Source τ Value) (fuel : Nat)
    (now : τ) : Option (Ended τ Unit) :=
  let poll : Poll τ := ⟨.removal, s.name, deadline, s.removalPause⟩
  poll.run reads fuel now

end TimeScale

variable [GrowingScale τ]

/-- The attempts to write. -/
def write (s : Session τ) (writes : Source τ α) (fuel : Nat) (now : τ) : Option (Ended τ α) :=
  let retry : Retry τ := ⟨s.name, s.backoff⟩
  retry.run writes fuel now

/-- Writes the object and waits for it. -/
def apply (s : Session τ) (operation : Operation) (writes : Source τ α) (feed : Feed τ)
    (fuel : Nat) (now : τ) : Option (Ended τ α) :=
  if operation = .delete then
    some ⟨now, .error (.invalid "apply_and_wait does not delete; use delete_and_wait"), []⟩
  else do
    followedBy (← s.write writes fuel now) fun back =>
      (s.await (.starting now s.backoff.timeout) feed fuel back).map
        (·.after [.notice (.settling operation s.name s.strategy? s.backoff.timeout)])

/-- Has the object deleted and waits for it to be gone. The timeout is the one that is told, if
it is not the usual one. -/
def delete (s : Session τ) (told? : Option τ) (writes : Source τ α) (reads : Source τ Value)
    (fuel : Nat) (now : τ) : Option (Ended τ α) := do
  followedBy (← s.write writes fuel now) fun back =>
    (s.awaitRemoval (.starting now s.backoff.timeout) reads fuel back).map
      (·.after [.notice (.leaving s.name told?)])

end Session

end Settle

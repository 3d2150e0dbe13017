import Settle.Clock.Scale
import Settle.Notice
import Settle.Value.Basic

/-!
# Calls and what comes of them

A call to the cluster begins at a time and comes back after a delay, with a value or with a
failure. What calls come back with is given by their number alone: a source answers the first
call, the second, and so on.
-/

namespace Settle

/-- The calls that are made. -/
inductive Call where
  /-- The object is read for a wait. -/
  | read
  /-- The object is read for the rules to abort on. -/
  | check
  /-- The object is written, or its deletion is requested. -/
  | write
  deriving DecidableEq

/-- What happens in the course of a wait or a write. -/
inductive Event (τ : Type) where
  | call (call : Call) (time : τ)
  | sleep (time span : τ)
  | notice (notice : Notice τ)

/-- What a call comes back with. -/
structure Reply (τ α : Type) where
  result  : Except Failure α
  delay   : τ
  notices : List (Notice τ)

/-- The reply to each call, counted from zero. -/
abbrev Source (τ α : Type) := Nat → Reply τ α

/-- The end of a wait or a write, and what happened before it. -/
structure Ended (τ α : Type) where
  time    : τ
  outcome : Except Failure α
  events  : List (Event τ)

namespace Source

variable {τ α : Type}

/-- The replies in order, the last one again and again, or `default` if there are none. -/
def ofList (default : Reply τ α) (replies : List (Reply τ α)) : Source τ α :=
  fun n => (replies[n]?.orElse fun _ => replies.getLast?).getD default

end Source

namespace Event

variable {τ : Type}

/-- The time of a call of one kind. -/
def timeOf? (c : Call) : Event τ → Option τ
  | .call d t => if d = c then some t else none
  | _         => none

def notice? : Event τ → Option (Notice τ)
  | .notice n => some n
  | _         => none

end Event

namespace Reply

variable {τ α : Type}

/-- What happens when the call is made. -/
def events (r : Reply τ α) (c : Call) (now : τ) : List (Event τ) :=
  .call c now :: r.notices.map .notice

end Reply

namespace Ended

variable {τ α β : Type}

/-- The times of the calls of one kind, in order. -/
def times (c : Call) (e : Ended τ α) : List τ := e.events.filterMap (Event.timeOf? c)

/-- With events in front. -/
def after (before : List (Event τ)) (e : Ended τ α) : Ended τ α :=
  { e with events := before ++ e.events }

@[simp] theorem after_time (es : List (Event τ)) (e : Ended τ α) : (e.after es).time = e.time := rfl

@[simp] theorem after_outcome (es : List (Event τ)) (e : Ended τ α) :
    (e.after es).outcome = e.outcome := rfl

end Ended

end Settle

import Settle.Wait.Strategy

/-!
# What a read decides

A wait is for a state of an object or for its removal. A wait for a state is over when a read
fails or shows the state, and a wait for removal when a read finds that the object is gone;
whatever else a read brings, the next one may bring something new.
-/

namespace Settle

inductive Target where
  | state (strategy : Strategy)
  | removal

namespace Target

/-- What a wait block asks to wait for, if it is anything. -/
def ofBlock? (shape? : Option Shape) (hints : Hints) : Option WaitBlock → Option Target
  | none | some .nothing    => none
  | some .rollout           => some (.state (.rollout 0))
  | some (.conditions c cs) => some (.state (.conditions (c :: cs)))
  | some (.fields f fs)     =>
    some (.state (.fields ((f :: fs).map WaitField.matcher) shape? hints))

/-- What is waited for, in messages. -/
def reason (name : Text) : Target → Text
  | .state s  => s.reason
  | .removal  => "deletion of " ++ name

/-- How the wait ends if it ends with this result of a read. -/
def judge : Target → Except Failure Value → Option (Except Failure Unit)
  | .state _,  .error e => some (.error e)
  | .state s,  .ok v    =>
    match s.isDone v with
    | .ok true  => some (.ok ())
    | .ok false => none
    | .error e  => some (.error e)
  | .removal, .error (.gone _) => some (.ok ())
  | .removal, _                => none

end Target

end Settle

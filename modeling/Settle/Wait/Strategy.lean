import Settle.Config.Wait
import Settle.Path.Walk
import Settle.Rollout.Status
import Settle.Shape

/-!
# When a snapshot is good enough

A strategy tells from one snapshot of an object whether the wait is over: every field has the
value wanted, every condition has the status wanted, or the rollout is done. Some snapshots show
that the wait makes no sense, and fail.
-/

namespace Settle

inductive Strategy where
  /-- With a shape, every path has to lead somewhere; without one, it may do so later. -/
  | fields (matchers : List Matcher) (shape? : Option Shape) (hints : Hints)
  | conditions (wanted : List Condition)
  | rollout (revision : Int)

namespace Strategy

/-- What is waited for, in messages. -/
def reason : Strategy → Text
  | .fields ..    => "field matchers"
  | .conditions _ => "conditions"
  | .rollout _    => "rollout to complete"

/-! ### Fields -/

/-- The key of bookkeeping that changes with every write. -/
def bookkeeping : Text := "managedFields"

/-- Metadata without bookkeeping. -/
def stripMetadata : Value → Value
  | .map entries => .map (entries.filter fun e => decide (e.1 ≠ bookkeeping))
  | v            => v

/-- The object without its bookkeeping. -/
def strip : Value → Except Failure Value
  | .map entries =>
    let metadata : Text := "metadata"
    .ok (.map (entries.map fun e => if e.1 = metadata then (e.1, stripMetadata e.2) else e))
  | _ => .error .notMap

/-- Every matcher accepts the value at its path. -/
def allMatch (known : Bool) (tree : Value) : List Matcher → Except Failure Bool
  | []      => .ok true
  | m :: ms =>
    match m.path.walk tree with
    | none | some .null => if known then .error (.absent m.path.text) else .ok false
    | some v => do
      if ← m.accepts v then allMatch known tree ms else return false

/-! ### Conditions -/

/-- Of the first entry of the type wanted, the status is the one wanted. -/
def hasCondition (wanted : Condition) : List Value → Bool
  | [] => false
  | .map entry :: rest =>
    if (Value.lookup "type" entry).any (·.same (.str wanted.type)) then
      (Value.lookup "status" entry).any (·.same (.str wanted.status))
    else hasCondition wanted rest
  | _ :: rest => hasCondition wanted rest

/-- The conditions of an object are a list in its status, and all that are wanted hold. -/
def allHold (wanted : List Condition) : Value → Except Failure Bool
  | .map entries =>
    match Value.lookup "status" entries with
    | some (.map status) =>
      match Value.lookup "conditions" status with
      | some (.list (c :: cs)) => .ok (wanted.all fun w => hasCondition w (c :: cs))
      | _ => .ok false
    | _ => .ok false
  | _ => .error .notMap

/-! ### Rollouts -/

/-- The rollout of the object is done. -/
def rolledOut (revision : Int) (object : Value) : Except Failure Bool := do
  let (group, kind) ← Rollout.groupKind object
  let workload ← Rollout.workload group kind
  return (← Rollout.status workload object revision).done

/-- The snapshot shows what is waited for. -/
def isDone (object : Value) : Strategy → Except Failure Bool
  | .fields matchers shape? hints => do
    let tree ← (shape?.getD .any).convert hints [] (← strip object)
    allMatch shape?.isSome tree matchers
  | .conditions wanted => allHold wanted object
  | .rollout revision  => rolledOut revision object

end Strategy

end Settle

import Settle.Failure
import Settle.Number.Literal
import Settle.Value.Shown

/-!
# Counters in objects

The fields of an object that count something may be missing, null, or given as text or as a
floating-point number. What is missing or blank counts as zero; what is no number at all fails.
-/

namespace Settle.Rollout

/-- A field of a map; null if it has none. -/
def field (name : Text) : Value → Except Failure Value
  | .map entries => .ok ((Value.lookup name entries).getD .null)
  | _            => .error .notMap

/-- A field of a map that is a map itself, empty if it is missing or blank. -/
def section? (name : Text) (v : Value) : Except Failure Value := do
  let w ← field name v
  return if w.isBlank then .map [] else w

/-- The integer that a value stands for. -/
def toInteger : Value → Except Failure Int
  | .bool b  => .ok (if b then 1 else 0)
  | .int n   => .ok n
  | .str t   => (Literal.integer t).mapError fun e => .invalid e.message
  | .float x =>
    match x with
    | .nan        => .error (.invalid "cannot convert float NaN to integer")
    | .infinite _ => .error .overflow
    | x           => .ok x.truncate
  | _ => .error .wrongType

/-- A counter. -/
def count (v : Value) : Except Failure Int :=
  if v.isBlank then .ok 0 else toInteger v

/-- A counter in a field. -/
def countOf (name : Text) (v : Value) : Except Failure Int := do count (← field name v)

/-- A number in a message. -/
def write (n : Int) : Except Failure Text := (Decimal.write n).mapError .invalid

/-- A value in a message. -/
def shown (v : Value) : Except Failure Text := v.shown.mapError .invalid

/-! ### Wanted numbers

The number of replicas that is wanted is compared as it stands, integer or not. -/

/-- The integer is less than a number. -/
def isBelow (n : Int) : Value → Except Failure Bool
  | .bool b  => .ok (n < if b then 1 else 0)
  | .int m   => .ok (n < m)
  | .float x =>
    match x with
    | .nan        => .ok false
    | .infinite s => .ok !s
    | x           => .ok (n * twoTo 1074 < x.units)
  | _ => .error .wrongType

/-- A number less an integer. -/
def minus (v : Value) (n : Int) : Except Failure Value :=
  match v with
  | .bool b  => .ok (.int ((if b then 1 else 0) - n))
  | .int m   => .ok (.int (m - n))
  | .float x =>
    match Binary64.ofInt? n with
    | some y => .ok (.float (x - y))
    | none   => .error .overflow
  | _ => .error .wrongType

end Settle.Rollout

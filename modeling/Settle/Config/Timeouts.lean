import Settle.Config.Read
import Settle.Duration

/-!
# Timeouts

Each operation has a timeout of its own, above zero; it is ten minutes unless another one is
given.
-/

namespace Settle

/-- What is done to an object. -/
inductive Operation where
  | create
  | update
  | delete
  deriving DecidableEq

namespace Operation

def name : Operation → Text
  | .create => "create"
  | .update => "update"
  | .delete => "delete"

/-- The operation of a name. -/
def ofName? (t : Text) : Option Operation := [create, update, delete].find? (·.name = t)

end Operation

/-- The timeouts that are given. -/
structure Timeouts where
  create? : Option Binary64
  update? : Option Binary64
  delete? : Option Binary64
  deriving DecidableEq

namespace Timeouts

/-- The seconds of a timeout that is not given. -/
def defaultSeconds : Nat := 600

/-- A duration above zero. -/
def read (d : Document) : Checked (Option Binary64) := do
  let seconds ← Checked.ofAttempt (Duration.ofDocument d)
  return some (← Read.above 0 seconds)

def ofDocument (d : Document) : Checked Timeouts := do
  let es ← Read.entries "Timeouts" d
  let timeout (name : Text) := Read.optional name none read es
  let (create?, update?, delete?) ←
    Checked.both (timeout "create") (Checked.both (timeout "update") (timeout "delete"))
  return ⟨create?, update?, delete?⟩

/-- The timeout that is given for an operation. -/
def given? (t : Timeouts) : Operation → Option Binary64
  | .create => t.create?
  | .update => t.update?
  | .delete => t.delete?

/-- The timeout of an operation in seconds. -/
def of (t : Timeouts) (op : Operation) : Binary64 :=
  (t.given? op).getD (Binary64.ofNat defaultSeconds)

/-- The same timeout for every operation. -/
def all (seconds : Binary64) : Timeouts := ⟨some seconds, some seconds, some seconds⟩

end Timeouts

end Settle

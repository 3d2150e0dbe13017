import Settle.Path.Basic
import Settle.Value.Basic

/-!
# Walking a path

A step by name or key leads into a map, a step by place into a list. Any other step leads
nowhere.
-/

namespace Settle

/-- The child that a step leads to. -/
def Step.child? : Step → Value → Option Value
  | .field name,  .map entries => Value.lookup name entries
  | .key name,    .map entries => Value.lookup name entries
  | .index place, .list items  => items[place]?
  | _,            _            => none

/-- The node at the end of a row of steps. -/
def Value.at? : List Step → Value → Option Value
  | [],        v => some v
  | s :: rest, v => (s.child? v).bind (Value.at? rest)

/-- The node that a path leads to. -/
def Path.walk (p : Path) (root : Value) : Option Value := Value.at? p.steps root

end Settle

import Settle.Text.Decimal
import Settle.Text.Escaped

/-!
# Field paths

A path leads from the root of a tree to one of its nodes: by the name of an attribute, by the
place in a list, or by a key of a map. It is written in dot and bracket notation, as in
`status.containerStatuses[0].ready` or `metadata.annotations["app.kubernetes.io/name"]`.
-/

namespace Settle

/-- One step from a node to a child. -/
inductive Step where
  /-- An attribute, written with a dot. -/
  | field (name : Text)
  /-- A place in a list, counted from zero. -/
  | index (place : Nat)
  /-- A key of a map, written between quotation marks. -/
  | key (name : Text)
  deriving DecidableEq

/-- The steps from the root. -/
structure Path where
  steps : List Step
  deriving DecidableEq

namespace Step

/-- A step as it is written behind others. -/
def text : Step → Text
  | .field name  => "." ++ name
  | .index place => "[" ++ Decimal.ofNat place ++ "]"
  | .key name    => "[" ++ name.escaped ++ "]"

end Step

namespace Path

/-- The canonical text: a dot in front of the first step is left out. -/
def text (p : Path) : Text :=
  match p.steps.flatMap Step.text with
  | c :: t => if c = '.' then t else c :: t
  | []     => []

end Path

end Settle

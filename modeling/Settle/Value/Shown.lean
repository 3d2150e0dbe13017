import Settle.Document.Basic

/-!
# Values in messages

A value is shown as a literal; in running text, a text stands for itself.
-/

namespace Settle.Value

/-- The value as a literal. -/
def literal (v : Value) : Except Text Text := v.toDocument.literal

/-- The value in running text. -/
def shown : Value → Except Text Text
  | .str t => .ok t
  | v      => v.literal

@[simp] theorem shown_str (t : Text) : shown (.str t) = .ok t := rfl

end Settle.Value

import Settle.Number.Rounded
import Settle.Text.Quoted
import Settle.Value.Basic

/-!
# The text a scalar is matched by

Texts stand for themselves, booleans are `true` and `false`, and whole numbers have no decimal
point. Other numbers have six places in the plain style, or the fewest digits that read back in
the shortest style. Null, lists and maps are no scalars.
-/

namespace Settle

/-- How fractions are written. -/
inductive FractionStyle where
  | plain
  | shortest
  deriving DecidableEq

/-- Why a value has no text to match. -/
inductive ScalarError where
  /-- It is no scalar but of the type named. -/
  | notScalar (typeName : Text)
  /-- It is a whole number with too many digits. -/
  | tooLong
  deriving DecidableEq

namespace Value

/-- The text of a whole number. -/
def wholeText (n : Int) : Except ScalarError Text :=
  if Decimal.tooLong n then .error .tooLong else .ok (Decimal.ofInt n)

/-- The text that a matcher compares. -/
def scalarText (style : FractionStyle) : Value → Except ScalarError Text
  | .str t   => .ok t
  | .bool b  => .ok (if b then "true" else "false")
  | .int n   => wholeText n
  | .float x =>
    if x.isWhole then wholeText x.truncate
    else match style with
      | .shortest => .ok x.text
      | .plain    => .ok (x.fixed 6)
  | v => .error (.notScalar v.typeName)

end Value

end Settle

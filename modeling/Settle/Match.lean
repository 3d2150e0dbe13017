import Settle.Failure
import Settle.Path.Parser
import Settle.Pattern.Basic
import Settle.Value.Scalar

/-!
# Matchers

A matcher says what the text of the value at a path has to be. A condition is a type and the
status it has to have among the conditions of an object.
-/

namespace Settle

namespace Failure

/-- The failure of rendering a value. -/
def ofScalarError : ScalarError → Failure
  | .notScalar n => .unmatchable n
  | .tooLong     => .invalid Decimal.tooLongToWrite

/-- The failure of compiling a value; faults in it are reported behind `what`. -/
def ofPatternError (what value source : Text) : Pattern.PatternError → Failure
  | .fault f n         => .invalid (what ++ " " ++ value.quoted ++ ": " ++ f.message source n)
  | .incompatibleFlags => .invalid "ASCII and UNICODE flags are incompatible"
  | .longNumber n      => .invalid (Decimal.tooLongToRead n)
  | .hugeNumber        => .overflow

end Failure

/-- What a configured value has to match, at which path. -/
structure Matcher where
  path    : Path
  pattern : Pattern

/-- A type of condition and the status it has to have. -/
structure Condition where
  type   : Text
  status : Text
  deriving DecidableEq

/-- The path that a text denotes. -/
def Path.ofText (t : Text) : Except Failure Path := (parse t).mapError (Failure.ofPathError t)

namespace Matcher

/-- A matcher from configured texts; a wildcard stands for any scalar. -/
def build [CharacterNames] (key value : Text) (how : Comparison) : Except Failure Matcher := do
  let pattern ← (Pattern.ofValue value how true).mapError
    (Failure.ofPatternError "invalid regular expression" value value)
  return ⟨← Path.ofText key, pattern⟩

/-- The plain text of a value has what the pattern describes. -/
def accepts (m : Matcher) (v : Value) : Except Failure Bool :=
  ((v.scalarText .plain).mapError Failure.ofScalarError).map m.pattern.foundIn

end Matcher

end Settle

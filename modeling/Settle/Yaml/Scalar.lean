import Settle.Text.Case.Lower
import Settle.Yaml.Base64
import Settle.Yaml.Kind
import Settle.Yaml.Moment

/-!
# Values of scalars

A scalar of a kind is read by the rules of the kind. Low lines in numbers do not count, and numbers
may be written to base 60, the digits separated by colons.
-/

namespace Settle.Yaml.Scalar

/-- A word for a truth value, in letters of any case. -/
def boolean (t : Text) : Except Failure Bool :=
  let word := t.map CodePoint.lower
  if word = "yes" || word = "true" || word = "on" then .ok true
  else if word = "no" || word = "false" || word = "off" then .ok false
  else .error (.external "KeyError" word)

/-! ### Numbers -/

/-- A text without a first character. -/
def missing : Failure := .external "IndexError" "string index out of range"

/-- A sign and what follows it. -/
def signed (t : Text) : Except Failure (Bool × Text) :=
  if t.isEmpty then .error missing else .ok (Literal.sign t)

/-- The parts between colons. -/
def parts : Text → List Text
  | []     => [[]]
  | c :: t =>
    if c = ':' then [] :: parts t
    else match parts t with
      | p :: ps => (c :: p) :: ps
      | []      => [[c]]

def integerIn (base : Nat) (t : Text) : Except Failure Int :=
  (Literal.integerIn base t).mapError fun e => .invalid e.message

/-- An integer without sign: in base 2 or 16 behind a mark, in base 8 behind a zero, in base 60 or
in base 10. -/
def magnitude (t : Text) : Except Failure Int :=
  if t.isEmpty then .error missing
  else match Text.after? "0b" t, Text.after? "0x" t with
  | some ds, _    => integerIn 2 ds
  | _,    some ds => integerIn 16 ds
  | none, none    =>
    if Text.startsWith t "0" then integerIn 8 t
    else if t.contains (CodePoint.ofChar ':') then do
      return (← (parts t).mapM (integerIn 10)).foldl (fun n d => 60 * n + d) 0
    else integerIn 10 t

def integer (t : Text) : Except Failure Int := do
  let (negative, body) ← signed (t.filter (· ≠ CodePoint.ofChar '_'))
  let n ← magnitude body
  return if negative then -n else n

/-- A number without sign. -/
def decimal (t : Text) : Except Failure Binary64 :=
  match Binary64.ofText? t with
  | some x => .ok x
  | none   => .error (.invalid ("could not convert string to float: " ++ t.quoted))

/-- The sum of digits, the last one first, times powers of 60. -/
def sexagesimal (sum : Binary64) (power : Int) : List Binary64 → Except Failure Binary64
  | []      => .ok sum
  | d :: ds =>
    match Binary64.ofInt? power with
    | some p => sexagesimal (sum + d * p) (60 * power) ds
    | none   => .error .overflow

def number (t : Text) : Except Failure Binary64 := do
  let (negative, body) ← signed ((t.filter (· ≠ CodePoint.ofChar '_')).map CodePoint.lower)
  if body = ".nan" then return .nan
  let x ←
    if body = ".inf" then pure (.infinite false)
    else if body.contains (CodePoint.ofChar ':') then do
      sexagesimal 0 1 (← (parts body).mapM decimal).reverse
    else decimal body
  return if negative then -x else x

/-! ### Kinds -/

/-- The value of a scalar of a kind; collections have none. -/
def value? : Kind → Option (Text → Except Failure Document)
  | .null   => some fun _ => .ok .null
  | .bool   => some fun t => (boolean t).map .bool
  | .int    => some fun t => (integer t).map .int
  | .float  => some fun t => (number t).map .float
  | .text   => some fun t => .ok (.str t)
  | .bytes  => some fun t =>
    ((Base64.read t).map .bytes).mapError fun p => .malformed p.message
  | .moment => some fun t => (Moment.read t).map .moment
  | _       => none

end Settle.Yaml.Scalar

import Settle.Failure

/-!
# Issues with configured data

Data that does not have the form that a configuration asks for is rejected with a list of issues,
each at a place in the data. All parts are checked, so that one pass finds the issues of all of
them, in the order of the parts.
-/

namespace Settle

/-- One step to a place in configured data. -/
inductive Place where
  | field (name : Text)
  | index (n : Nat)
  deriving DecidableEq

/-- What is wrong at a place. -/
inductive Problem where
  | missing
  | notText
  | badText
  | notBoolean
  | badBoolean
  | notList
  | notSection (name : Text)
  | notNumber
  | badNumber
  | notInteger
  | badInteger
  | longInteger
  | fractional
  | notFinite
  | notAbove (bound : Nat)
  | below (bound : Nat)
  /-- None of the names that are allowed. -/
  | notOneOf (names : Text)
  /-- Refused for the reason given. -/
  | refused (reason : Text)
  deriving DecidableEq

structure Issue where
  problem : Problem
  place   : List Place
  deriving DecidableEq

namespace Problem

/-- The name of the kind of problem. -/
def kind : Problem → Text
  | .missing       => "missing"
  | .notText       => "string_type"
  | .badText       => "string_unicode"
  | .notBoolean    => "bool_type"
  | .badBoolean    => "bool_parsing"
  | .notList       => "list_type"
  | .notSection _  => "model_type"
  | .notNumber     => "float_type"
  | .badNumber     => "float_parsing"
  | .notInteger    => "int_type"
  | .badInteger    => "int_parsing"
  | .longInteger   => "int_parsing_size"
  | .fractional    => "int_from_float"
  | .notFinite     => "finite_number"
  | .notAbove _    => "greater_than"
  | .below _       => "greater_than_equal"
  | .notOneOf _    => "enum"
  | .refused _     => "value_error"

/-- What is said of the problem. -/
def message : Problem → Text
  | .missing       => "Field required"
  | .notText       => "Input should be a valid string"
  | .badText       =>
    "Input should be a valid string, unable to parse raw data as a unicode string"
  | .notBoolean    => "Input should be a valid boolean"
  | .badBoolean    => "Input should be a valid boolean, unable to interpret input"
  | .notList       => "Input should be a valid list"
  | .notSection n  => "Input should be a valid dictionary or instance of " ++ n
  | .notNumber     => "Input should be a valid number"
  | .badNumber     => "Input should be a valid number, unable to parse string as a number"
  | .notInteger    => "Input should be a valid integer"
  | .badInteger    => "Input should be a valid integer, unable to parse string as an integer"
  | .longInteger   =>
    "Unable to parse input string as an integer, exceeded maximum size"
  | .fractional    => "Input should be a valid integer, got a number with a fractional part"
  | .notFinite     => "Input should be a finite number"
  | .notAbove n    => "Input should be greater than " ++ Decimal.ofNat n
  | .below n       => "Input should be greater than or equal to " ++ Decimal.ofNat n
  | .notOneOf ns   => "Input should be " ++ ns
  | .refused r     => "Value error, " ++ r

end Problem

/-- Why configured data was not accepted. -/
inductive Rejection where
  | issues (found : List Issue)
  /-- A check did not come to an end. -/
  | failed (failure : Failure)

/-- Configured data that is accepted, or why it is not. -/
abbrev Checked (α : Type) := Except Rejection α

namespace Checked

variable {α β : Type}

/-- One problem with the data as a whole. -/
def problem (p : Problem) : Checked α := .error (.issues [⟨p, []⟩])

/-- The issues of a part belong to its place. -/
def inside (p : Place) : Checked α → Checked α
  | .error (.issues is) => .error (.issues (is.map fun i => { i with place := p :: i.place }))
  | r                   => r

/-- Both parts, or the issues of both. -/
def both : Checked α → Checked β → Checked (α × β)
  | .ok a,                 .ok b                 => .ok (a, b)
  | .ok _,                 .error e              => .error e
  | .error (.failed f),    _                     => .error (.failed f)
  | .error (.issues _),    .error (.failed f)    => .error (.failed f)
  | .error (.issues is),   .error (.issues js)   => .error (.issues (is ++ js))
  | .error (.issues is),   .ok _                 => .error (.issues is)

/-- All parts in order, or the issues of all of them; `n` is the index of the first. -/
def eachFrom (read : α → Checked β) (n : Nat) : List α → Checked (List β)
  | []      => .ok []
  | a :: as =>
    (both ((read a).inside (.index n)) (eachFrom read (n + 1) as)).map fun (b, bs) => b :: bs

/-- The parts of a list at their indices. -/
def each (read : α → Checked β) (as : List α) : Checked (List β) := eachFrom read 0 as

/-- A check by which a value is refused for a reason; checks that fail otherwise do not come to
an end. -/
def ofAttempt : Except Failure α → Checked α
  | .ok a => .ok a
  | .error (.invalid m) => problem (.refused m)
  | .error (.badPath t f) => problem (.refused (Failure.badPath t f).message)
  | .error f => .error (.failed f)

end Checked

end Settle

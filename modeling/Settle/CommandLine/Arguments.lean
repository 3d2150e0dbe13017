import Settle.Text.Basic

/-!
# Arguments of a command

The words behind a command are operands and options. An option begins with a hyphen and has a
value: what follows an equals sign, or the next word, whatever that looks like. An option of one
letter can have its value right behind the letter. A double hyphen ends the options.
-/

namespace Settle

/-- What a command takes: how many operands, and the spellings of its options with their names. -/
structure Signature where
  operands : Nat
  options  : List (Text × Text)

structure Arguments where
  operands : List Text
  options  : List (Text × Text)
  deriving DecidableEq

namespace Arguments

/-- The value of an option; given several times, the last one counts. -/
def value? (a : Arguments) (name : Text) : Option Text := a.options.reverse.lookup name

def withOperand (w : Text) (a : Arguments) : Arguments := { a with operands := w :: a.operands }

def withOption (name value : Text) (a : Arguments) : Arguments :=
  { a with options := (name, value) :: a.options }

end Arguments

namespace Signature

/-- More than a hyphen, with one in front. -/
def isOption : Text → Bool
  | c :: _ :: _ => c = '-'
  | _           => false

/-- A word that is an option of several letters, and the value behind an equals sign. -/
def long? (s : Signature) (w : Text) : Option (Text × Option Text) :=
  let spelling := w.takeWhile (· ≠ CodePoint.ofChar '=')
  if spelling.length ≤ 2 then none
  else (s.options.lookup spelling).map fun name =>
    (name, if spelling.length = w.length then none else some (w.drop (spelling.length + 1)))

/-- A word that is an option of one letter, and the value behind it. -/
def short? (s : Signature) (w : Text) : Option (Text × Option Text) :=
  if Text.startsWith w "--" then none
  else (s.options.lookup (w.take 2)).map fun name =>
    (name, if w.length ≤ 2 then none else some (w.drop 2))

/-- The arguments that words make, unless an option is unknown or has no value. -/
def read? (s : Signature) : List Text → Option Arguments
  | []      => some ⟨[], []⟩
  | w :: ws =>
    if w = "--" then some ⟨ws, []⟩
    else if !isOption w then (read? s ws).map (.withOperand w)
    else
      match (s.long? w).orElse fun _ => s.short? w, ws with
      | none,                _        => none
      | some (name, some v), ws       => (read? s ws).map (.withOption name v)
      | some (name, none),   v :: ws' => (read? s ws').map (.withOption name v)
      | some (_, none),      []       => none

end Signature

end Settle

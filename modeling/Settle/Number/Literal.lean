import Settle.Number.Binary64
import Settle.Text.Decimal
import Settle.Text.Class.Blank
import Settle.Text.Class.Digit
import Settle.Text.Quoted

/-!
# Reading numbers

A number may stand between blanks, has an optional sign, and may have single low lines between
its digits; digits of any decimal system are taken for their value. A numeral with a fraction or
an exponent, an infinity or not-a-number is read as a `Binary64`, a plain one as an integer, which
may be in another base than ten.
-/

namespace Settle

namespace Literal

/-- Digits of any script replaced by the ASCII ones; blanks at the ends left out. A text that is
ASCII throughout has fewer blanks. -/
def normalize (t : Text) : Text :=
  if t.all CodePoint.isAscii then t.trim CodePoint.isAsciiBlank
  else
    let plain (c : CodePoint) : CodePoint :=
      match c.decimalValue? with
      | some d => Decimal.digit d
      | none   => c
    (t.trim CodePoint.isBlank).map plain

/-- Takes out low lines, each of which has to stand between two digits. -/
def dropLowLines (afterDigit : Bool) : Text → Option Text
  | []     => some []
  | c :: t =>
    if c = '_' then
      if afterDigit && t.head?.any CodePoint.isDigit then dropLowLines false t else none
    else (dropLowLines c.isDigit t).map (c :: ·)

/-- An optional sign, and what follows it. -/
def sign : Text → Bool × Text
  | c :: t => if c = '-' then (true, t) else if c = '+' then (false, t) else (false, c :: t)
  | []     => (false, [])

/-- A decimal exponent that ends the text: none if there is something else. -/
def exponent? : Text → Option Int
  | [] => some 0
  | c :: t =>
    if c = 'e' || c = 'E' then
      let (negative, ds) := sign t
      if ds.isEmpty || !ds.all CodePoint.isDigit then none
      else
        let n : Int := Decimal.value ds
        some (if negative then -n else n)
    else none

/-- A decimal without sign. -/
def decimal? (negative : Bool) (t : Text) : Option Binary64 :=
  let whole := t.takeWhile CodePoint.isDigit
  let rest  := t.dropWhile CodePoint.isDigit
  let (places, rest) :=
    match rest with
    | c :: r => if c = '.' then (r.takeWhile CodePoint.isDigit, r.dropWhile CodePoint.isDigit)
                else ([], rest)
    | []     => ([], [])
  let digits := whole ++ places
  if digits.isEmpty then none
  else (exponent? rest).map fun e =>
    Binary64.ofDecimal negative (Decimal.value digits) (e - places.length)

/-- The names of the infinity and of not-a-number. -/
def named? (negative : Bool) (t : Text) : Option Binary64 :=
  let lower := t.map fun c => if c.isUpper then (CodePoint.ofNat? (c.val + 32)).getD c else c
  if lower = "inf" || lower = "infinity" then some (.infinite negative)
  else if lower = "nan" then some .nan
  else none

end Literal

/-- The number that a text denotes. -/
def Binary64.ofText? (t : Text) : Option Binary64 := do
  let t ← Literal.dropLowLines false (Literal.normalize t)
  let (negative, body) := Literal.sign t
  (Literal.named? negative body).orElse fun _ => Literal.decimal? negative body

/-! ### Integers -/

/-- Why a text is no integer. -/
inductive IntegerError where
  | malformed (base : Nat) (text : Text)
  | tooLong (digits : Nat)

/-- What is said of a text that is no integer; a long one is not quoted to its end. -/
def IntegerError.message : IntegerError → Text
  | .malformed base t =>
    "invalid literal for int() with base " ++ Decimal.ofNat base ++ ": " ++ t.quoted.take 200
  | .tooLong n => Decimal.tooLongToRead n

namespace Literal

/-- The value of a digit; letters of either case are digits from ten on. -/
def digitValue? (c : CodePoint) : Option Nat :=
  if c.isDigit then some (c.val - '0'.toNat)
  else if c.isLower then some (c.val - 'a'.toNat + 10)
  else if c.isUpper then some (c.val - 'A'.toNat + 10)
  else none

/-- The number that digits denote. -/
def digitsValue? (base : Nat) (ds : Text) : Option Nat :=
  ds.foldlM (fun n c => do
    let d ← digitValue? c
    if d < base then some (base * n + d) else none) 0

/-- The integer of a sign and digits in a base; decimal ones are limited in number. -/
def ofDigits (base : Nat) (t : Text) (negative : Bool) (ds : Text) : Except IntegerError Int :=
  match if ds.isEmpty then none else digitsValue? base ds with
  | none   => .error (.malformed base t)
  | some n =>
    if base = 10 && Decimal.digitLimit < ds.length then .error (.tooLong ds.length)
    else .ok (if negative then -n else n)

/-- The integer that a decimal text denotes. -/
def integer (t : Text) : Except IntegerError Int :=
  let (negative, body) := sign (normalize t)
  match dropLowLines false body with
  | none    => .error (.malformed 10 t)
  | some ds => ofDigits 10 t negative ds

/-- The letter that may stand, after a zero, in front of digits in a base. -/
def isBaseMark (base : Nat) (c : CodePoint) : Bool :=
  match base with
  | 2  => c = 'b' || c = 'B'
  | 8  => c = 'o' || c = 'O'
  | 16 => c = 'x' || c = 'X'
  | _  => false

/-- Without the mark of a base at the front. -/
def dropBaseMark (base : Nat) : Text → Text
  | z :: m :: t => if z = '0' && isBaseMark base m then t else z :: m :: t
  | t           => t

/-- The integer that a text without low lines denotes in a base. -/
def integerIn (base : Nat) (t : Text) : Except IntegerError Int :=
  let (negative, body) := sign (normalize t)
  ofDigits base t negative (dropBaseMark base body)

end Literal

end Settle

import Settle.Number.Power
import Settle.Text.Basic

/-!
# Decimal numerals

Natural numbers and integers in base ten, without leading zeros, and the number that a row of
decimal digits denotes. Numerals of more than 4300 digits are refused in either direction, which
bounds the work that one conversion can take.
-/

namespace Settle

namespace Decimal

/-- The digit that stands for `n % 10`. -/
def digit (n : Nat) : CodePoint := ⟨'0'.toNat + n % 10, by have : '0'.toNat = 48 := rfl; omega⟩

/-- The digits of `n` in front of `rest`. -/
def prepend (n : Nat) (rest : Text) : Text :=
  if n < 10 then digit n :: rest else prepend (n / 10) (digit n :: rest)

/-- The numeral of a natural number. -/
def ofNat (n : Nat) : Text := prepend n []

/-- The numeral of an integer, with a hyphen in front of a negative one. -/
def ofInt : Int → Text
  | .ofNat n   => ofNat n
  | .negSucc n => '-' :: ofNat (n + 1)

/-- The number that a row of digits denotes. -/
def value (digits : Text) : Nat :=
  digits.foldl (fun n c => 10 * n + (c.val - '0'.toNat)) 0

/-- The most digits a numeral may have. -/
def digitLimit : Nat := 4300

/-- Too large to be written. -/
def tooLong (i : Int) : Bool := tenTo digitLimit ≤ i.natAbs

/-- What is said of a number that is too large to be written. -/
def tooLongToWrite : Text :=
  "Exceeds the limit (4300 digits) for integer string conversion; " ++
  "use sys.set_int_max_str_digits() to increase the limit"

/-- What is said of a numeral that is too long to be read. -/
def tooLongToRead (digits : Nat) : Text :=
  "Exceeds the limit (4300 digits) for integer string conversion: value has " ++
  ofNat digits ++ " digits; use sys.set_int_max_str_digits() to increase the limit"

/-- The numeral, if it is short enough to be written. -/
def write (i : Int) : Except Text Text :=
  if tooLong i then .error tooLongToWrite else .ok (ofInt i)

theorem prepend_append (n : Nat) (r s : Text) : prepend n (r ++ s) = prepend n r ++ s := by
  induction n using Nat.strongRecOn generalizing r with
  | _ n ih =>
    rw [prepend]
    conv => rhs; rw [prepend]
    split
    · rfl
    · rw [← List.cons_append, ih _ (by omega)]

/-- A numeral is the numeral of its tens and its last digit. -/
theorem ofNat_eq (n : Nat) :
    ofNat n = if n < 10 then [digit n] else ofNat (n / 10) ++ [digit n] := by
  rw [ofNat, prepend]
  split
  · rfl
  · rw [← List.nil_append [digit n], prepend_append]; rfl

end Decimal

end Settle

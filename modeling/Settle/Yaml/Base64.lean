import Settle.Text.Decimal

/-!
# Bytes written in base 64

Four characters stand for three bytes, and a character for six bits. Other characters are passed
over. Padding ends the text where it fills up a group of four.
-/

namespace Settle.Yaml.Base64

/-- Why a text stands for no bytes. -/
inductive Problem where
  /-- There is a run of other characters than ASCII ones. -/
  | foreign (first : CodePoint) (start length : Nat)
  /-- A single character is left over. -/
  | surplus (characters : Nat)
  | padding

/-- A code point by its number in hexadecimal digits. -/
def numbered (c : CodePoint) : Text :=
  if c.val < 0x100 then "\\x" ++ Text.hex 2 c.val
  else if c.val < 0x10000 then "\\u" ++ Text.hex 4 c.val
  else "\\U" ++ Text.hex 8 c.val

def Problem.message : Problem → Text
  | .foreign c start length =>
    let what : Text := if length = 1 then "character '" ++ numbered c ++ "'" else "characters"
    let place : Text := Decimal.ofNat start ++
      (if length = 1 then ([] : Text) else "-" ++ Decimal.ofNat (start + length - 1))
    "failed to convert base64 data into ascii: 'ascii' codec can't encode " ++ what ++
      " in position " ++ place ++ ": ordinal not in range(128)"
  | .surplus n =>
    "failed to decode base64 data: Invalid base64-encoded string: number of data characters (" ++
      Decimal.ofNat n ++ ") cannot be 1 more than a multiple of 4"
  | .padding => "failed to decode base64 data: Incorrect padding"

/-- The six bits that a character stands for. -/
def value? (c : CodePoint) : Option Nat :=
  if c.isUpper then some (c.val - 'A'.toNat)
  else if c.isLower then some (c.val - 'a'.toNat + 26)
  else if c.isDigit then some (c.val - '0'.toNat + 52)
  else if c = '+' then some 62
  else if c = '/' then some 63
  else none

/-- The values of the characters, and whether padding ends them; `filled` of a group of four are
there, and `pads` of padding behind them. -/
def values (filled pads : Nat) : Text → List Nat × Bool
  | []     => ([], false)
  | c :: t =>
    if c = '=' then
      if filled < 2 then values filled pads t
      else if 3 ≤ filled + pads then ([], true)
      else values filled (pads + 1) t
    else match value? c with
      | none   => values filled pads t
      | some n =>
        let (ns, padded) := values ((filled + 1) % 4) 0 t
        (n :: ns, padded)

/-- The bytes of values of six bits. -/
def bytes : List Nat → List Nat
  | a :: b :: c :: d :: r =>
    (4 * a + b / 16) :: (b % 16 * 16 + c / 4) :: (c % 4 * 64 + d) :: bytes r
  | [a, b, c] => [4 * a + b / 16, b % 16 * 16 + c / 4]
  | [a, b]    => [4 * a + b / 16]
  | _         => []

/-- The bytes that a text stands for. -/
def read (t : Text) : Except Problem Text :=
  let plain := t.takeWhile CodePoint.isAscii
  match t.drop plain.length with
  | c :: r =>
    .error (.foreign c plain.length ((c :: r).takeWhile fun d => !d.isAscii).length)
  | [] =>
    let (ns, padded) := values 0 0 t
    if padded || ns.length % 4 = 0 then .ok ((bytes ns).filterMap CodePoint.ofNat?)
    else if ns.length % 4 = 1 then .error (.surplus ns.length)
    else .error .padding

end Settle.Yaml.Base64

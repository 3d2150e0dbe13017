/-!
# Text as code points

A text is a list of code points. Unlike a character, a code point may be a lone surrogate, so
every string that a JSON document can write is a text; offsets count code points.

Literals are written as strings and characters, which coerce.
-/

namespace Settle

/-- A number below `0x110000`; surrogates included. -/
abbrev CodePoint := Fin 0x110000

namespace CodePoint

/-- The code point of a character. -/
def ofChar (c : Char) : CodePoint :=
  ⟨c.toNat, by
    have h := c.valid
    simp only [UInt32.isValidChar, Nat.isValidChar] at h
    show c.val.toNat < _
    omega⟩

instance : Coe Char CodePoint := ⟨ofChar⟩

/-- The code point numbered `n`, if there is one. -/
def ofNat? (n : Nat) : Option CodePoint :=
  if h : n < 0x110000 then some ⟨n, h⟩ else none

/-- Between two characters, both included. -/
def between (lo hi : Char) (c : CodePoint) : Bool :=
  lo.toNat ≤ c.val && c.val ≤ hi.toNat

def isDigit (c : CodePoint) : Bool := c.between '0' '9'
def isUpper (c : CodePoint) : Bool := c.between 'A' 'Z'
def isLower (c : CodePoint) : Bool := c.between 'a' 'z'
def isLetter (c : CodePoint) : Bool := c.isUpper || c.isLower
def isAscii (c : CodePoint) : Bool := c.val < 0x80

def isHexDigit (c : CodePoint) : Bool :=
  c.isDigit || c.between 'A' 'F' || c.between 'a' 'f'

/-- The value of a hexadecimal digit; zero for anything else. -/
def hexValue (c : CodePoint) : Nat :=
  if c.isDigit then c.val - '0'.toNat
  else if c.between 'a' 'f' then c.val - 'a'.toNat + 10
  else if c.between 'A' 'F' then c.val - 'A'.toNat + 10
  else 0

/-- The first half of a surrogate pair. -/
def isHighSurrogate (c : CodePoint) : Bool := 0xD800 ≤ c.val && c.val ≤ 0xDBFF

/-- The second half of a surrogate pair. -/
def isLowSurrogate (c : CodePoint) : Bool := 0xDC00 ≤ c.val && c.val ≤ 0xDFFF

def isSurrogate (c : CodePoint) : Bool := c.isHighSurrogate || c.isLowSurrogate

/-- The character, unless it is a surrogate. -/
def toChar? (c : CodePoint) : Option Char :=
  if c.isSurrogate then none else some (Char.ofNat c.val)

end CodePoint

/-- A list of code points. -/
abbrev Text := List CodePoint

namespace Text

/-- The code points of a string. -/
def ofString (s : String) : Text := s.toList.map CodePoint.ofChar

instance : Coe String Text := ⟨ofString⟩

/-- The text as a string, if it holds no surrogate. -/
def toString? (t : Text) : Option String :=
  (t.mapM CodePoint.toChar?).map String.ofList

/-- The text as a string, each surrogate replaced. -/
def toStringLossy (t : Text) : String :=
  String.ofList (t.map fun c => (c.toChar?).getD '\uFFFD')

/-- The texts in order, with `sep` between neighbours. -/
def join (sep : Text) : List Text → Text
  | []           => []
  | [t]          => t
  | t :: u :: ts => t ++ sep ++ join sep (u :: ts)

/-- What follows `p` in `t`, if `t` begins with `p`. -/
def after? : (p t : Text) → Option Text
  | [],     t      => some t
  | _ :: _, []     => none
  | a :: p, b :: t => if a = b then after? p t else none

def startsWith (t p : Text) : Bool := (after? p t).isSome

/-- Without the code points of a class at either end. -/
def trim (blank : CodePoint → Bool) (t : Text) : Text :=
  ((t.dropWhile blank).reverse.dropWhile blank).reverse

/-- The number that hexadecimal digits denote. -/
def hexValue (t : Text) : Nat :=
  t.foldl (fun n c => 16 * n + c.hexValue) 0

/-- At least `width` lower-case hexadecimal digits. -/
def hex (width n : Nat) : Text :=
  let digits := Nat.toDigits 16 n
  (List.replicate (width - digits.length) '0' ++ digits).map CodePoint.ofChar

@[simp] theorem join_nil (sep : Text) : join sep [] = [] := rfl

@[simp] theorem join_singleton (sep t : Text) : join sep [t] = t := rfl

@[simp] theorem after?_nil (t : Text) : after? [] t = some t := rfl

end Text

end Settle

import Settle.Config.Issue
import Settle.Document.Basic
import Settle.Number.Literal

/-!
# Reading configured data

Configured data is taken in any form that leaves no doubt: numbers and booleans may be written as
text, whole numbers as floating-point numbers, and lists as any collection.
-/

namespace Settle.Read

/-- Blanks that do not count at the ends of a number in text. -/
def isBlank (c : CodePoint) : Bool := c.isBlank && !(0x1c ≤ c.val && c.val ≤ 0x1f)

/-- The text that a row of bytes encodes. -/
def decode? (bytes : Text) : Option Text :=
  (String.fromUTF8? (ByteArray.mk (bytes.map fun b => b.val.toUInt8).toArray)).map Text.ofString

/-- A text that holds characters only. -/
def characters (t : Text) : Checked Text :=
  if t.any CodePoint.isSurrogate then Checked.problem .badText else .ok t

/-- A text, perhaps encoded. -/
def text : Document → Checked Text
  | .str t   => characters t
  | .bytes b =>
    match decode? b with
    | some t => .ok t
    | none   => Checked.problem .badText
  | _        => Checked.problem .notText

/-- The text of a value that may be written as text; none for other data. Bytes that encode no
text are an issue. -/
def written? (undecodable : Problem) : Document → Checked (Option Text)
  | .str t   => (characters t).map some
  | .bytes b =>
    match decode? b with
    | some t => .ok (some t)
    | none   => Checked.problem undecodable
  | _        => .ok none

/-- Null or what `read` accepts. -/
def orNull {α : Type} (read : Document → Checked α) : Document → Checked (Option α)
  | .null => .ok none
  | d     => (read d).map some

/-! ### Booleans -/

def lowerAscii (t : Text) : Text := t.map CodePoint.toLowerAscii
where
  CodePoint.toLowerAscii (c : CodePoint) : CodePoint :=
    if c.isUpper then (CodePoint.ofNat? (c.val + 32)).getD c else c

/-- The boolean that a text names. -/
def booleanName? (t : Text) : Option Bool :=
  let t := lowerAscii t
  if [("1" : Text), "t", "y", "on", "yes", "true"].contains t then some true
  else if [("0" : Text), "f", "n", "no", "off", "false"].contains t then some false
  else none

/-- A signed word of 64 bits holds the number. -/
def fitsWord (n : Int) : Bool := -twoTo 63 ≤ n && n < twoTo 63

/-- One and zero as booleans. -/
def booleanOfInt (n : Int) : Checked Bool :=
  if n = 0 then .ok false
  else if n = 1 then .ok true
  else if fitsWord n then Checked.problem .badBoolean
  else Checked.problem .notBoolean

def boolean (d : Document) : Checked Bool :=
  match d with
  | .bool b  => .ok b
  | .int n   => booleanOfInt n
  | .float x => if x.isWhole then booleanOfInt x.truncate else Checked.problem .notBoolean
  | d => do
    match ← written? .badBoolean d with
    | none   => Checked.problem .notBoolean
    | some t =>
      match booleanName? t with
      | some b => .ok b
      | none   => Checked.problem .badBoolean

/-! ### Numbers -/

/-- Without low lines, none of which may be at an end or beside another. -/
def joinLowLines? (t : Text) : Option Text :=
  let low : CodePoint := '_'
  let neighbours := t.zip (t.drop 1)
  if t.head? = some low || t.getLast? = some low || neighbours.contains (low, low) then none
  else some (t.filter (· ≠ low))

/-- A number with an optional sign. -/
def plainNumber? (t : Text) : Option Binary64 :=
  let (negative, body) := Literal.sign t
  (Literal.named? negative body).orElse fun _ => Literal.decimal? negative body

/-- The number that a text denotes. -/
def numberText? (t : Text) : Option Binary64 :=
  (plainNumber? (t.trim isBlank)).orElse fun _ => (joinLowLines? t).bind plainNumber?

def number : Document → Checked Binary64
  | .float x => .ok x
  | .bool b  => .ok (if b then .ofNat 1 else 0)
  | .int n   =>
    match Binary64.ofInt? n with
    | some x => .ok x
    | none   => Checked.problem .notNumber
  | d => do
    match ← written? .badNumber d with
    | none   => Checked.problem .notNumber
    | some t =>
      match numberText? t with
      | some x => .ok x
      | none   => Checked.problem .badNumber

/-- The integer that a text denotes, which may have a point and zeros behind it. -/
def integerText (t : Text) : Checked Int :=
  let (negative, body) := Literal.sign (t.trim isBlank)
  let body := match body.reverse.dropWhile (· = CodePoint.ofChar '0') with
    | c :: before => if c = '.' then before.reverse else body
    | []          => body
  match joinLowLines? body with
  | none => Checked.problem .badInteger
  | some ds =>
    if ds.isEmpty || !ds.all CodePoint.isDigit then Checked.problem .badInteger
    else if Decimal.digitLimit < ds.length then Checked.problem .longInteger
    else
      let n : Int := Decimal.value ds
      .ok (if negative then -n else n)

def integer : Document → Checked Int
  | .int n   => .ok n
  | .bool b  => .ok (if b then 1 else 0)
  | .float x =>
    if !x.isFinite then Checked.problem .notFinite
    else if !x.isWhole then Checked.problem .fractional
    else if fitsWord x.truncate then .ok x.truncate
    else Checked.problem .longInteger
  | d => do
    match ← written? .badInteger d with
    | none   => Checked.problem .notInteger
    | some t => integerText t

/-- A number greater than a bound. -/
def above (bound : Nat) (x : Binary64) : Checked Binary64 :=
  if Binary64.ofNat bound < x then .ok x else Checked.problem (.notAbove bound)

/-- A number that is a bound at least. -/
def atLeast (bound : Nat) (x : Binary64) : Checked Binary64 :=
  if Binary64.ofNat bound ≤ x then .ok x else Checked.problem (.below bound)

/-! ### Parts -/

def list {α : Type} (read : Document → Checked α) (d : Document) : Checked (List α) :=
  match d.items? with
  | some ds => Checked.each read ds
  | none    => Checked.problem .notList

/-- The entries of a section of the name given. -/
def entries (name : Text) (d : Document) : Checked (List (Document × Document)) :=
  match d.entries? with
  | some es => .ok es
  | none    => Checked.problem (.notSection name)

/-- A field that has to be there. -/
def required {α : Type} (name : Text) (read : Document → Checked α)
    (es : List (Document × Document)) : Checked α :=
  ((Document.lookup name es).elim (Checked.problem .missing) read).inside (.field name)

/-- A field that may be left out. -/
def optional {α : Type} (name : Text) (default : α) (read : Document → Checked α)
    (es : List (Document × Document)) : Checked α :=
  ((Document.lookup name es).elim (.ok default) read).inside (.field name)

end Settle.Read

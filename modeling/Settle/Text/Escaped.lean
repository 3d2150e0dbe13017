import Settle.Text.Basic

/-!
# JSON strings in printable ASCII

A text between quotation marks, in which every code point outside the printable ASCII range is
written by a short escape or by its UTF-16 units.
-/

namespace Settle

namespace CodePoint

/-- The letter of the short escape of a code point, if it has one. -/
def shortEscape? (c : CodePoint) : Option CodePoint :=
  if c = '"' then some '"'
  else if c = '\\' then some '\\'
  else if c = '\n' then some 'n'
  else if c = '\r' then some 'r'
  else if c = '\t' then some 't'
  else if c = '\x08' then some 'b'
  else if c = '\x0c' then some 'f'
  else none

/-- The UTF-16 units of a code point: itself, or a surrogate pair. -/
def units (c : CodePoint) : List Nat :=
  if c.val < 0x10000 then [c.val]
  else
    let n := c.val - 0x10000
    [0xD800 + n / 0x400, 0xDC00 + n % 0x400]

end CodePoint

namespace Text

/-- One code point inside a JSON string. -/
def escapedPoint (c : CodePoint) : Text :=
  match c.shortEscape? with
  | some letter => ['\\', letter]
  | none =>
    if c.between ' ' '~' then [c]
    else c.units.flatMap fun u => "\\u" ++ hex 4 u

/-- The text as a JSON string, quotation marks included. -/
def escaped (t : Text) : Text :=
  "\"" ++ t.flatMap escapedPoint ++ "\""

end Text

end Settle

import Settle.Text.Class.Printable

/-!
# Quoted text in messages

A text is quoted with apostrophes, or with quotation marks if it holds an apostrophe and no
quotation mark. The quote in use and the backslash are escaped, and so is every code point that
cannot be printed.
-/

namespace Settle.Text

/-- The mark a text is quoted with. -/
def quoteMark (t : Text) : CodePoint :=
  if t.contains (CodePoint.ofChar '\'') && !t.contains (CodePoint.ofChar '"') then '"' else '\''

/-- One code point inside quotes. -/
def quotedPoint (mark c : CodePoint) : Text :=
  if c = mark || c = '\\' then ['\\', c]
  else if c = '\n' then "\\n"
  else if c = '\r' then "\\r"
  else if c = '\t' then "\\t"
  else if c.isPrintable then [c]
  else if c.val < 0x100 then "\\x" ++ hex 2 c.val
  else if c.val < 0x10000 then "\\u" ++ hex 4 c.val
  else "\\U" ++ hex 8 c.val

/-- The text between quotes. -/
def quoted (t : Text) : Text :=
  let mark := t.quoteMark
  mark :: t.flatMap (quotedPoint mark) ++ [mark]

/-- A row of bytes between quotes, marked as bytes. -/
def quotedBytes (t : Text) : Text :=
  let mark := t.quoteMark
  let byte (c : CodePoint) : Text :=
    if c = mark || c = '\\' then ['\\', c]
    else if c = '\n' then "\\n"
    else if c = '\r' then "\\r"
    else if c = '\t' then "\\t"
    else if c.between ' ' '~' then [c]
    else "\\x" ++ hex 2 c.val
  "b" ++ mark :: t.flatMap byte ++ [mark]

end Settle.Text

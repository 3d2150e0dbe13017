import Settle.Text.Basic

/-!
# Names of code points

Which code point goes by which name is up to a character database, which is a parameter of all that
reads names. A small one knows the code points of ASCII that can be printed.
-/

namespace Settle

/-- A character database. -/
class CharacterNames where
  /-- The code point that goes by a name. -/
  find? : Text → Option CodePoint

namespace CharacterNames

/-- Names of the code points of ASCII that are neither letters nor digits. -/
def signs : List (String × Char) := [
  ("SPACE", ' '), ("EXCLAMATION MARK", '!'), ("QUOTATION MARK", '"'), ("NUMBER SIGN", '#'),
  ("DOLLAR SIGN", '$'), ("PERCENT SIGN", '%'), ("AMPERSAND", '&'), ("APOSTROPHE", '\''),
  ("LEFT PARENTHESIS", '('), ("RIGHT PARENTHESIS", ')'), ("ASTERISK", '*'), ("PLUS SIGN", '+'),
  ("COMMA", ','), ("HYPHEN-MINUS", '-'), ("FULL STOP", '.'), ("SOLIDUS", '/'), ("COLON", ':'),
  ("SEMICOLON", ';'), ("LESS-THAN SIGN", '<'), ("EQUALS SIGN", '='), ("GREATER-THAN SIGN", '>'),
  ("QUESTION MARK", '?'), ("COMMERCIAL AT", '@'), ("LEFT SQUARE BRACKET", '['),
  ("REVERSE SOLIDUS", '\\'), ("RIGHT SQUARE BRACKET", ']'), ("CIRCUMFLEX ACCENT", '^'),
  ("LOW LINE", '_'), ("GRAVE ACCENT", '\x60'), ("LEFT CURLY BRACKET", '\x7b'),
  ("VERTICAL LINE", '|'), ("RIGHT CURLY BRACKET", '\x7d'), ("TILDE", '~')]

/-- Names of the digits. -/
def digits : List (String × Char) := [
  ("DIGIT ZERO", '0'), ("DIGIT ONE", '1'), ("DIGIT TWO", '2'), ("DIGIT THREE", '3'),
  ("DIGIT FOUR", '4'), ("DIGIT FIVE", '5'), ("DIGIT SIX", '6'), ("DIGIT SEVEN", '7'),
  ("DIGIT EIGHT", '8'), ("DIGIT NINE", '9')]

/-- Letters of either case count as the same in a name. -/
def capital (c : CodePoint) : CodePoint :=
  if c.isLower then (CodePoint.ofNat? (c.val - 32)).getD c else c

/-- The letter that goes by a name. -/
def letter? (name : Text) : Option CodePoint :=
  match Text.after? "LATIN CAPITAL LETTER " name, Text.after? "LATIN SMALL LETTER " name with
  | some [c], _ => if c.isUpper then some c else none
  | _, some [c] => if c.isUpper then CodePoint.ofNat? (c.val + 32) else none
  | _, _        => none

/-- The names of ASCII. -/
instance ascii : CharacterNames where
  find? name :=
    let name := name.map capital
    match (signs ++ digits).find? fun e => Text.ofString e.1 = name with
    | some e => some (CodePoint.ofChar e.2)
    | none   => letter? name

end CharacterNames

end Settle

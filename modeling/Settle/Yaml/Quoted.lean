import Settle.Yaml.Cursor

/-!
# Quoted scalars

Between single quotes, two of them stand for one. Between double quotes, a backslash begins an
escape. In both, a single line break counts as a space, and further ones are kept.
-/

namespace Settle.Yaml.Quoted

/-- What a backslash and a letter stand for. -/
def letter? (c : CodePoint) : Option CodePoint :=
  let table : List (Char × Nat) := [('0', 0x00), ('a', 0x07), ('b', 0x08), ('t', 0x09),
    ('\t', 0x09), ('n', 0x0a), ('v', 0x0b), ('f', 0x0c), ('r', 0x0d), ('e', 0x1b), (' ', 0x20),
    ('"', 0x22), ('\\', 0x5c), ('/', 0x2f), ('N', 0x85), ('_', 0xa0), ('L', 0x2028),
    ('P', 0x2029)]
  (table.find? fun e => CodePoint.ofChar e.1 = c).bind fun e => CodePoint.ofNat? e.2

/-- How many hexadecimal digits follow a letter. -/
def width? (c : CodePoint) : Option Nat :=
  if c = 'x' then some 2 else if c = 'u' then some 4 else if c = 'U' then some 8 else none

/-- The code point of a number. -/
def numbered (n : Nat) : Except Failure CodePoint :=
  match CodePoint.ofNat? n with
  | some c => .ok c
  | none   =>
    if n < twoTo 31 then .error (.invalid "chr() arg not in range(0x110000)") else .error .overflow

/-- Breaks and the blanks around them, none of which may be followed by a mark. -/
def breaks : Nat → Text → Cursor → Except Failure (Text × Cursor)
  | 0,        seen, c => .ok (seen, c)
  | fuel + 1, seen, c =>
    if c.seesMark then fault "while scanning a quoted scalar"
    else
      let c := c.skipWhile isBlank
      if c.sees isBreak then
        let (b, c) := c.takeBreak
        breaks fuel (seen ++ b) c
      else .ok (seen, c)

/-- An escape, behind its backslash. -/
def escape (c : Cursor) : Except Failure (Text × Cursor) :=
  match c.rest with
  | []     => fault "while scanning a double-quoted scalar"
  | e :: r =>
    match letter? e, width? e with
    | some d, _ => .ok ([d], c.next)
    | none, some w =>
      let digits := r.take w
      if digits.length = w && digits.all CodePoint.isHexDigit then do
        return ([← numbered (Text.hexValue digits)], c.skip (w + 1))
      else fault "while scanning a double-quoted scalar"
    | none, none =>
      if isBreak e then breaks c.rest.length [] c.takeBreak.2
      else fault "while scanning a double-quoted scalar"

/-- What follows up to a blank, a break or the closing quote. -/
def word (double : Bool) : Nat → Text → Cursor → Except Failure (Text × Cursor)
  | 0,        seen, c => .ok (seen, c)
  | fuel + 1, seen, c =>
    let (run, c) := c.takeWhile fun d => !(isOf "'\"\\" d || isBlank d || isBreak d)
    let seen := seen ++ run
    match c.rest with
    | []     => .ok (seen, c)
    | d :: r =>
      if !double && d = '\'' && r.head? = some (CodePoint.ofChar '\'') then
        word double fuel (seen ++ [d]) (c.skip 2)
      else if if double then d = '\'' else isOf "\"\\" d then word double fuel (seen ++ [d]) c.next
      else if double && d = '\\' then do
        let (t, c) ← escape c.next
        word double fuel (seen ++ t) c
      else .ok (seen, c)

/-- Blanks and breaks between words. -/
def gap (c : Cursor) : Except Failure (Text × Cursor) :=
  let (blanks, c) := c.takeWhile isBlank
  if c.rest.isEmpty then fault "while scanning a quoted scalar"
  else if c.sees isBreak then do
    let (b, c) := c.takeBreak
    let (more, c) ← breaks c.rest.length [] c
    let first : Text := if b ≠ "\n" then b else if more.isEmpty then " " else []
    return (first ++ more, c)
  else .ok (blanks, c)

/-- Words and gaps up to the closing quote. -/
def body (double : Bool) : Nat → Text → Cursor → Except Failure (Text × Cursor)
  | 0,        _,    _ => fault "while scanning a quoted scalar"
  | fuel + 1, seen, c => do
    let (t, c) ← word double (c.rest.length + 1) seen c
    if c.seesChar (if double then '"' else '\'') then return (t, c.next)
    else
      let (g, c) ← gap c
      body double fuel (t ++ g) c

/-- A quoted scalar, which begins at its quote. -/
def read (c : Cursor) : Except Failure (Text × Cursor) :=
  body (c.seesChar '"') (c.rest.length + 1) [] c.next

end Settle.Yaml.Quoted

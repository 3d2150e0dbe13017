import Settle.Yaml.Cursor

/-!
# Anchors, tags and directives

An anchor names a node and an alias refers to it. A tag says what kind of value a node is: it is
written in full, or as a handle, which stands for a prefix, and a suffix. Directives stand before
a document and say which version it has and what handles stand for.
-/

namespace Settle.Yaml

/-- A tag as it is written. -/
structure Tag where
  handle? : Option Text
  suffix  : Text
  deriving DecidableEq

inductive Directive where
  | version (major minor : Nat)
  | handle (handle stem : Text)
  | other
  deriving DecidableEq

namespace Property

/-- The name of an anchor or an alias, behind its indicator. -/
def anchor (what : Text) (c : Cursor) : Except Failure (Text × Cursor) :=
  let (name, c) := c.takeWhile isWord
  if name.isEmpty || !c.endsAt 0 (fun d => isBlank d || isOf "?:,]\x7d%@`" d) then
    fault ("while scanning an " ++ what)
  else .ok (name, c)

/-! ### Tags -/

/-- A handle: an exclamation mark alone, or two of them around a word. -/
def handle (what : Text) (c : Cursor) : Except Failure (Text × Cursor) :=
  if !c.seesChar '!' then fault ("while scanning a " ++ what)
  else if c.peek? 1 = some (CodePoint.ofChar ' ') then .ok ("!", c.next)
  else
    let (word, after) := c.next.takeWhile isWord
    if after.seesChar '!' then .ok ("!" ++ word ++ "!", after.next)
    else fault ("while scanning a " ++ what)

/-- The value of the two hexadecimal digits that follow. -/
def byte? (c : Cursor) : Option Nat :=
  match c.rest with
  | a :: b :: _ => if a.isHexDigit && b.isHexDigit then some (Text.hexValue [a, b]) else none
  | _           => none

/-- A row of escaped bytes. -/
def bytes (what : Text) : Nat → List UInt8 → Cursor → Except Failure (List UInt8 × Cursor)
  | 0,        seen, c => .ok (seen, c)
  | fuel + 1, seen, c =>
    if c.seesChar '%' then
      match byte? c.next with
      | some n => bytes what fuel (seen ++ [n.toUInt8]) (c.skip 3)
      | none   => fault ("while scanning a " ++ what)
    else .ok (seen, c)

/-- The text of a row of escaped bytes. -/
def escaped (what : Text) (c : Cursor) : Except Failure (Text × Cursor) := do
  let (bs, c) ← bytes what (c.rest.length + 1) [] c
  match String.fromUTF8? (ByteArray.mk bs.toArray) with
  | some s => return (s, c)
  | none   => fault ("while scanning a " ++ what)

/-- A character of a resource identifier. -/
def isIdentifier (c : CodePoint) : Bool := isWord c || isOf ";/?:@&=+$,.!~*'()[]" c

/-- The parts of a resource identifier. -/
def identifierParts (what : Text) : Nat → Text → Cursor → Except Failure (Text × Cursor)
  | 0,        seen, c => .ok (seen, c)
  | fuel + 1, seen, c => do
    let (run, c) := c.takeWhile isIdentifier
    if c.seesChar '%' then
      let (t, c) ← escaped what c
      identifierParts what fuel (seen ++ run ++ t) c
    else return (seen ++ run, c)

/-- A resource identifier, which is not empty. -/
def identifier (what : Text) (c : Cursor) : Except Failure (Text × Cursor) := do
  if !(c.sees isIdentifier || c.seesChar '%') then fault ("while parsing a " ++ what)
  identifierParts what (c.rest.length + 1) [] c

/-- A tag, which begins at its exclamation mark. -/
def tag (c : Cursor) : Except Failure (Tag × Cursor) := do
  let (found, c) ←
    if c.peek? 1 = some (CodePoint.ofChar '<') then do
      let (suffix, c) ← identifier "tag" (c.skip 2)
      if !c.seesChar '>' then fault "while parsing a tag"
      pure ((⟨none, suffix⟩ : Tag), c.next)
    else if c.endsAt 1 isBlank then pure (⟨none, "!"⟩, c.next)
    else do
      let word := c.next.rest.takeWhile fun d => !(isSpace d || isBreak d)
      let (h, c) ←
        if word.contains (CodePoint.ofChar '!') then handle "tag" c else pure ("!", c.next)
      let (suffix, c) ← identifier "tag" c
      pure (⟨some h, suffix⟩, c)
  if c.endsAt 0 isSpace then return (found, c) else fault "while scanning a tag"

/-! ### Directives -/

def context : Text := "while scanning a directive"

/-- A number in a directive. -/
def number (c : Cursor) : Except Failure (Nat × Cursor) :=
  let (digits, c) := c.takeWhile CodePoint.isDigit
  if digits.isEmpty then fault context else .ok (Decimal.value digits, c)

/-- What a directive of some name says. -/
def directiveValue (name : Text) (c : Cursor) : Except Failure (Directive × Cursor) := do
  if name = "YAML" then
    let (major, c) ← number (c.skipWhile isSpace)
    if !c.seesChar '.' then fault context
    let (minor, c) ← number c.next
    if !c.endsAt 0 isSpace then fault context
    return (.version major minor, c)
  else if name = "TAG" then
    let (h, c) ← handle "directive" (c.skipWhile isSpace)
    if !c.sees isSpace then fault context
    let (stem, c) ← identifier "directive" (c.skipWhile isSpace)
    if !c.endsAt 0 isSpace then fault context
    return (.handle h stem, c)
  else return (.other, c.skipLine)

/-- A directive, which begins at its percent sign and takes a line. -/
def directive (c : Cursor) : Except Failure (Directive × Cursor) := do
  let (name, c) := c.next.takeWhile isWord
  if name.isEmpty || !c.endsAt 0 isSpace then fault context
  let (value, c) ← directiveValue name c
  let c := c.skipWhile isSpace
  let c := if c.seesChar '#' then c.skipLine else c
  if c.endsAt 0 fun _ => false then return (value, c.takeBreak.2) else fault context

end Property

end Settle.Yaml

import Settle.Failure

/-!
# Places in a document

A cursor is a place in the text of a document: what follows it, and its line and column. Several
characters break lines, and the end of the text can stand where a break can.
-/

namespace Settle.Yaml

/-- A place in a text, with what follows. -/
structure Cursor where
  rest   : Text
  index  : Nat
  line   : Nat
  column : Nat

/-- Ends a line. -/
def isBreak (c : CodePoint) : Bool :=
  [0x0a, 0x0d, 0x85, 0x2028, 0x2029].contains c.val

def isSpace (c : CodePoint) : Bool := c.val == 0x20

/-- A space or a tab. -/
def isBlank (c : CodePoint) : Bool := c.val == 0x20 || c.val == 0x09

/-- A character of a name. -/
def isWord (c : CodePoint) : Bool := c.isDigit || c.isLetter || c = '-' || c = '_'

/-- One of the characters of a string. -/
def isOf (s : String) (c : CodePoint) : Bool := (Text.ofString s).contains c

/-- What follows satisfies `p`, or nothing follows. -/
def orEnd (p : CodePoint → Bool) : Option CodePoint → Bool
  | none   => true
  | some c => p c

namespace Cursor

def start (t : Text) : Cursor := ⟨t, 0, 0, 0⟩

/-- What follows, or what follows some characters later. -/
def peek? (c : Cursor) (ahead : Nat) : Option CodePoint := c.rest[ahead]?

/-- Something follows that satisfies `p`. -/
def sees (c : Cursor) (p : CodePoint → Bool) : Bool := c.rest.head?.any p

/-- A character follows. -/
def seesChar (c : Cursor) (d : Char) : Bool := c.sees (· = CodePoint.ofChar d)

/-- A break, the end or something that satisfies `p` follows some characters later. -/
def endsAt (c : Cursor) (ahead : Nat) (p : CodePoint → Bool) : Bool :=
  orEnd (fun d => isBreak d || p d) (c.peek? ahead)

/-- One character further; a mark of byte order takes no column. -/
def next (c : Cursor) : Cursor :=
  match c.rest with
  | []     => c
  | d :: r =>
    if isBreak d && !(d.val == 0x0d && r.head?.any (·.val == 0x0a)) then
      ⟨r, c.index + 1, c.line + 1, 0⟩
    else ⟨r, c.index + 1, c.line, if d.val == 0xfeff then c.column else c.column + 1⟩

/-- Some characters further. -/
def skip (c : Cursor) : Nat → Cursor
  | 0     => c
  | n + 1 => c.next.skip n

/-- Behind all that satisfies `p`. -/
def skipWhile (c : Cursor) (p : CodePoint → Bool) : Cursor :=
  c.skip (c.rest.takeWhile p).length

/-- All that satisfies `p`, and the place behind it. -/
def takeWhile (c : Cursor) (p : CodePoint → Bool) : Text × Cursor :=
  (c.rest.takeWhile p, c.skipWhile p)

/-- Behind the end of the line. -/
def skipLine (c : Cursor) : Cursor := c.skipWhile fun d => !isBreak d

/-- The break that follows, as it counts in a text, and the place behind it. -/
def takeBreak (c : Cursor) : Text × Cursor :=
  match c.rest with
  | d :: r =>
    if d.val == 0x2028 || d.val == 0x2029 then ([d], c.next)
    else if isBreak d then
      (['\n'], c.skip (if d.val == 0x0d && r.head?.any (·.val == 0x0a) then 2 else 1))
    else ([], c)
  | [] => ([], c)

/-- A mark between documents follows, with a break, a blank or the end behind it. -/
def seesMark (c : Cursor) : Bool :=
  (Text.startsWith c.rest "---" || Text.startsWith c.rest "...") && c.endsAt 3 isBlank

end Cursor

/-- The failure to read what a context says. -/
def fault {α : Type} (context : Text) : Except Failure α := .error (.malformed context)

end Settle.Yaml

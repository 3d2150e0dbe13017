import Settle.Number.Literal
import Settle.Pattern.Cursor
import Settle.Text.Names

/-!
# Escapes in patterns

A backslash and a letter stand for a control character, a class, a place, a code point by number,
or a group by number; before anything but a letter or a digit of ASCII a backslash takes away its
meaning.
-/

namespace Settle.Pattern

/-- What an escape stands for. -/
inductive Escaped where
  | point (c : CodePoint)
  | category (k : Category) (negated : Bool)
  | anchor (a : Anchor)
  | backref (index : Nat) (width : Nat × Option Nat)

namespace Escaped

/-- Control characters by letter. -/
def control? (c : CodePoint) : Option CodePoint :=
  if c = 'a' then some '\x07'
  else if c = 'b' then some '\x08'
  else if c = 'f' then some '\x0c'
  else if c = 'n' then some '\n'
  else if c = 'r' then some '\r'
  else if c = 't' then some '\t'
  else if c = 'v' then some '\x0b'
  else if c = '\\' then some '\\'
  else none

/-- Classes by letter; a capital negates. -/
def category? (c : CodePoint) : Option Escaped :=
  if c = 'd' then some (.category .digit false)
  else if c = 'D' then some (.category .digit true)
  else if c = 's' then some (.category .blank false)
  else if c = 'S' then some (.category .blank true)
  else if c = 'w' then some (.category .word false)
  else if c = 'W' then some (.category .word true)
  else none

/-- Places by letter. -/
def anchor? (ascii : Bool) (c : CodePoint) : Option Escaped :=
  if c = 'A' then some (.anchor .textStart)
  else if c = 'Z' then some (.anchor .textEnd)
  else if c = 'b' then some (.anchor (.wordEdge ascii))
  else if c = 'B' then some (.anchor (.noWordEdge ascii))
  else none

def isOctal (c : CodePoint) : Bool := c.between '0' '7'

/-- The number of octal digits. -/
def octalValue (t : Text) : Nat := t.foldl (fun n c => 8 * n + (c.val - '0'.toNat)) 0

/-- The code point numbered `n`, written by the escape `e`. -/
def numbered (e : Text) (n : Nat) : Reader Escaped :=
  match CodePoint.ofNat? n with
  | some c => return .point c
  | none   =>
    if 0x7fffffff < n then throw .hugeNumber else Reader.fail (.badEscape e) e.length

/-- The code point that `width` hexadecimal digits number. -/
def hexadecimal (e : Text) (width : Nat) : Reader Escaped := do
  let ds ← Reader.takeUpTo CodePoint.isHexDigit width
  let e := e ++ ds
  if ds.length ≠ width then Reader.fail (.incompleteEscape e) e.length
  else numbered e (Text.hexValue ds)

/-- The code point that goes by a name. Only a text of characters can be looked for. -/
def named [CharacterNames] (e : Text) : Reader Escaped := do
  if ← Reader.accept '\x7b' then
    let name ← Reader.name '\x7d' "character name"
    if name.any CodePoint.isSurrogate then Reader.fail (.badEscape e) e.length
    else match CharacterNames.find? name with
      | some c => return .point c
      | none   => Reader.fail (.unknownCharacterName name) (name.length + 4)
  else Reader.fail .missingBrace 0

/-- A code point by number or name, for the escape letters that do so in any place. -/
def byNumber? [CharacterNames] (e : Text) (c : CodePoint) : Option (Reader Escaped) :=
  if c = 'x' then some (hexadecimal e 2)
  else if c = 'u' then some (hexadecimal e 4)
  else if c = 'U' then some (hexadecimal e 8)
  else if c = 'N' then some (named e)
  else none

/-- A backslash before what has no meaning of its own. -/
def plain (e : Text) (c : CodePoint) : Reader Escaped :=
  if c.isLetter then Reader.fail (.badEscape e) e.length else return .point c

/-- An octal escape of at most three digits. -/
def octal (e : Text) : Reader Escaped :=
  let n := octalValue (e.drop 1)
  if 0o377 < n then Reader.fail (.octalEscape e) e.length else numbered e n

/-- The escape `e` between brackets, where digits are octal. -/
def inSet [CharacterNames] (e : Symbol) (c : CodePoint) : Reader Escaped :=
  match control? c, category? c, byNumber? e c with
  | some d, _, _ => return .point d
  | _, some k, _ => return k
  | _, _, some r => r
  | _, _, _ => do
    if isOctal c then octal (e ++ (← Reader.takeUpTo isOctal 2))
    else if c.isDigit then Reader.fail (.badEscape e) e.length
    else plain e c

/-- Inside a look-behind only groups that are closed before it can be referred to. -/
def checkLookBehind (group : Nat) : Reader Unit := do
  let s ← get
  match s.lookBehind? with
  | none => return ()
  | some n =>
    if (s.closed? group).isNone then Reader.fail .openGroup 0
    else if n ≤ group then Reader.fail .groupOfSameLookbehind 0
    else return ()

/-- A reference to a group that is closed. -/
def reference (e : Text) (group : Nat) : Reader Escaped := do
  let s ← get
  if s.groups ≤ group then Reader.fail (.invalidGroup group) (e.length - 1)
  else match s.closed? group with
    | none       => Reader.fail .openGroup e.length
    | some width =>
      checkLookBehind group
      return .backref group width

/-- A digit that is not zero: three octal digits, or the number of a group. -/
def digits (e : Symbol) (c : CodePoint) : Reader Escaped := do
  match ← Reader.takeUpTo CodePoint.isDigit 1 with
  | [] => reference e (Decimal.value [c])
  | more =>
    let e := e ++ more
    let third ← if isOctal c && more.all isOctal then Reader.takeUpTo isOctal 1 else pure []
    if third.isEmpty then reference e (Decimal.value (e.drop 1)) else octal (e ++ third)

/-- The escape `e` outside of brackets. -/
def inPattern [CharacterNames] (ascii : Bool) (e : Symbol) (c : CodePoint) : Reader Escaped :=
  match category? c, anchor? ascii c, control? c, byNumber? e c with
  | some k, _, _, _ => return k
  | _, some a, _, _ => return a
  | _, _, some d, _ => return .point d
  | _, _, _, some r => r
  | _, _, _, _ => do
    if c = '0' then numbered e (octalValue (e.drop 1 ++ (← Reader.takeUpTo isOctal 2)))
    else if c.isDigit then digits e c
    else plain e c

end Escaped

end Settle.Pattern

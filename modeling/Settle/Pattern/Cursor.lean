import Settle.Pattern.Fault
import Settle.Pattern.Node

/-!
# Reading a pattern symbol by symbol

A pattern is a row of symbols: code points, and backslashes together with the code point behind
them. A reader holds the symbols that are left and what is known of flags and groups; faults are
placed relative to the next symbol.
-/

namespace Settle.Pattern

/-- Flags that an expression can set for itself. -/
structure Flags where
  foldCase   : Bool := false
  multiLine  : Bool := false
  dotAll     : Bool := false
  verbose    : Bool := false
  ascii      : Bool := false
  unicode    : Bool := false
  template   : Bool := false
  deriving DecidableEq

namespace Flags

def mode (f : Flags) : Mode := ⟨f.foldCase, f.ascii && !f.unicode⟩

/-- Either's flags. -/
def union (f g : Flags) : Flags :=
  ⟨f.foldCase || g.foldCase, f.multiLine || g.multiLine, f.dotAll || g.dotAll,
    f.verbose || g.verbose, f.ascii || g.ascii, f.unicode || g.unicode, f.template || g.template⟩

/-- Flags of both. -/
def common (f g : Flags) : Flags :=
  ⟨f.foldCase && g.foldCase, f.multiLine && g.multiLine, f.dotAll && g.dotAll,
    f.verbose && g.verbose, f.ascii && g.ascii, f.unicode && g.unicode, f.template && g.template⟩

/-- The first's flags without the second's. -/
def without (f g : Flags) : Flags :=
  ⟨f.foldCase && !g.foldCase, f.multiLine && !g.multiLine, f.dotAll && !g.dotAll,
    f.verbose && !g.verbose, f.ascii && !g.ascii, f.unicode && !g.unicode,
    f.template && !g.template⟩

def isEmpty (f : Flags) : Bool := f = {}

/-- Chooses what counts as a letter, digit or blank. -/
def isType (f : Flags) : Bool := f.ascii || f.unicode

/-- The flags inside a group that adds some and drops others. -/
def inside (f add drop : Flags) : Flags :=
  let base := if add.isType then { f with ascii := false, unicode := false } else f
  (base.union add).without drop

/-- The flag of a letter; none for `L`, which texts do not have. -/
def ofLetter? (c : CodePoint) : Option Flags :=
  if c = 'i' then some { foldCase := true }
  else if c = 'm' then some { multiLine := true }
  else if c = 's' then some { dotAll := true }
  else if c = 'x' then some { verbose := true }
  else if c = 'a' then some { ascii := true }
  else if c = 'u' then some { unicode := true }
  else if c = 't' then some { template := true }
  else none

end Flags

/-- A code point, or a backslash and one. -/
abbrev Symbol := Text

/-- What is left to read, and what is known so far. -/
structure Cursor where
  /-- The symbols left, with their offsets. -/
  left : List (Nat × Symbol)
  /-- The length of the pattern. -/
  size : Nat
  flags : Flags := {}
  /-- The widths of the groups opened so far, of those that are closed; group 0 is open. -/
  widths : List (Option (Nat × Option Nat)) := [none]
  names : List (Text × Nat) := []
  /-- The number of groups before the outermost look-behind that is open. -/
  lookBehind? : Option Nat := none
  /-- Groups that conditions refer to, each with the offset of the first reference. -/
  conditions : List (Nat × Nat) := []

/-- Symbols with their offsets. -/
def symbolsFrom (offset : Nat) : Text → List (Nat × Symbol)
  | []          => []
  | [c]         => [(offset, [c])]
  | c :: d :: t =>
    if c = '\\' then (offset, [c, d]) :: symbolsFrom (offset + 2) t
    else (offset, [c]) :: symbolsFrom (offset + 1) (d :: t)

namespace Cursor

/-- A symbol that is a lone backslash ends the pattern. -/
def isDangling (s : Symbol) : Bool := s = "\\"

/-- The next symbol. -/
def next? (s : Cursor) : Option Symbol := s.left.head?.map Prod.snd

/-- The offset of the next symbol. -/
def offset (s : Cursor) : Nat := (s.left.head?.map Prod.fst).getD s.size

/-- The number of groups, the whole match included. -/
def groups (s : Cursor) : Nat := s.widths.length

/-- The width of a group that is closed. -/
def closed? (s : Cursor) (group : Nat) : Option (Nat × Option Nat) :=
  (s.widths[group]?).bind id

end Cursor

/-- A reader gives a result and what is left, or says what is wrong. -/
abbrev Reader (α : Type) := StateT Cursor (Except PatternError) α

namespace Reader

/-- A fault that lies `back` code points before the next symbol. -/
def fail {α : Type} (f : Fault) (back : Nat) : Reader α := fun s =>
  .error (.fault f (some (s.offset - back)))

/-- Refuses a backslash that ends the pattern as soon as it comes next. -/
def settle (s : Cursor) : Except PatternError Cursor :=
  match s.left with
  | (n, sym) :: _ =>
    if Cursor.isDangling sym then .error (.fault .danglingBackslash (some n)) else .ok s
  | [] => .ok s

def peek? : Reader (Option Symbol) := fun s => .ok (s.next?, s)

/-- Takes the next symbol, if there is one. -/
def take? : Reader (Option Symbol) := fun s =>
  (settle { s with left := s.left.tail }).map fun s' => (s.next?, s')

/-- Takes the next symbol if it is `c`. -/
def accept (c : Char) : Reader Bool := do
  if (← peek?) = some [CodePoint.ofChar c] then
    let _ ← take?
    return true
  else return false

def offset : Reader Nat := fun s => .ok (s.offset, s)

/-- Takes at most `n` symbols that are code points of a class. -/
def takeUpTo (p : CodePoint → Bool) : Nat → Reader Text
  | 0     => return []
  | n + 1 => do
    match ← peek? with
    | some [c] =>
      if p c then
        let _ ← take?
        return c :: (← takeUpTo p n)
      else return []
    | _ => return []

/-- All code points of a class that come next. -/
def takeAll (p : CodePoint → Bool) : Reader Text := do takeUpTo p (← get).left.length

/-- A name up to its terminator; `seen` is what has been read of it, last symbol first. -/
def nameUntil (terminator : Char) (what : Text) : Nat → List Symbol → Reader Text
  | 0, _ => fail (.missingName what) 0
  | n + 1, seen => do
    let name : Text := seen.reverse.flatten
    match ← take? with
    | none =>
      if seen.isEmpty then fail (.missingName what) 0
      else fail (.unterminatedName [CodePoint.ofChar terminator]) name.length
    | some c =>
      if c = [CodePoint.ofChar terminator] then
        if seen.isEmpty then fail (.missingName what) 1 else return name
      else nameUntil terminator what n (c :: seen)

/-- The name that comes next, up to its terminator. -/
def name (terminator : Char) (what : Text) : Reader Text := do
  nameUntil terminator what ((← get).left.length + 1) []

end Reader

end Settle.Pattern

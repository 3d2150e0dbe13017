import Settle.Yaml.Cursor

/-!
# Block scalars

The lines below a header that are indented. A literal scalar keeps its line breaks; in a folded
one, a single break between lines that do not begin with a blank counts as a space. The header
says whether the breaks at the end are kept, dropped, or cut down to one, and may say by how much
the lines are indented.
-/

namespace Settle.Yaml.Block

/-- What becomes of the breaks at the end. -/
inductive Chomp where
  | keep
  | drop
  | one
  deriving DecidableEq

def context : Text := "while scanning a block scalar"

/-- A sign in the header. -/
def chomp? (c : Cursor) : Option Chomp :=
  if c.seesChar '+' then some .keep else if c.seesChar '-' then some .drop else none

/-- A digit in the header, which must not be zero. -/
def depth? (c : Cursor) : Except Failure (Option Nat) :=
  match c.rest.head? with
  | some d =>
    if !d.isDigit then .ok none
    else if d = '0' then fault context
    else .ok (some (d.val - '0'.toNat))
  | none => .ok none

/-- The header behind its indicator, in which sign and digit may stand in any order. -/
def header (c : Cursor) : Except Failure (Chomp × Option Nat × Cursor) := do
  let (chomp, depth, c) ← match chomp? c with
    | some h => do
      let c := c.next
      match ← depth? c with
      | some n => pure (h, some n, c.next)
      | none   => pure (h, none, c)
    | none => do
      match ← depth? c with
      | some n =>
        let c := c.next
        match chomp? c with
        | some h => pure (h, some n, c.next)
        | none   => pure (Chomp.one, some n, c)
      | none => pure (Chomp.one, none, c)
  if c.endsAt 0 isSpace then return (chomp, depth, c) else fault context

/-- The rest of the line of the header, which may be a comment. -/
def restOfLine (c : Cursor) : Except Failure Cursor :=
  let c := c.skipWhile isSpace
  let c := if c.seesChar '#' then c.skipLine else c
  if c.endsAt 0 fun _ => false then .ok c.takeBreak.2 else fault context

/-- Empty lines, and the deepest column that a space reaches. -/
def measure : Nat → Text → Nat → Cursor → Text × Nat × Cursor
  | 0,        seen, deepest, c => (seen, deepest, c)
  | fuel + 1, seen, deepest, c =>
    if c.sees isSpace then measure fuel seen (max deepest c.next.column) c.next
    else if c.sees isBreak then
      let (b, c) := c.takeBreak
      measure fuel (seen ++ b) deepest c
    else (seen, deepest, c)

/-- Indentation up to a column, and empty lines. -/
def breaks (indent : Nat) : Nat → Text → Cursor → Text × Cursor
  | 0,        seen, c => (seen, c)
  | fuel + 1, seen, c =>
    let c := c.skip (min (indent - c.column) (c.rest.takeWhile isSpace).length)
    if c.sees isBreak then
      let (b, c) := c.takeBreak
      breaks indent fuel (seen ++ b) c
    else (seen, c)

/-- The lines from an indented one on. Gives the text, the last line break, the empty lines behind
it, and the place where they end. -/
def lines (folded : Bool) (indent : Nat) : Nat → Text → Text → Cursor → Text × Text × Text × Cursor
  | 0,        seen, empty, c => (seen, [], empty, c)
  | fuel + 1, seen, empty, c =>
    let solid := !c.sees isBlank
    let (line, c) := c.takeWhile fun d => !isBreak d
    let (b, c) := c.takeBreak
    let (more, c) := breaks indent (c.rest.length + 1) [] c
    let seen := seen ++ empty ++ line
    if c.column = indent && !c.rest.isEmpty then
      let joint : Text :=
        if folded && b = "\n" && solid && !c.sees isBlank then
          if more.isEmpty then " " else []
        else b
      lines folded indent fuel (seen ++ joint) more c
    else (seen, b, more, c)

/-- A block scalar, which begins at its indicator, inside a block of some indentation. -/
def read (outer : Int) (c : Cursor) : Except Failure (Text × Cursor) := do
  let folded := c.seesChar '>'
  let (chomp, depth, c) ← header c.next
  let c ← restOfLine c
  let least := (max 1 (outer + 1)).toNat
  let (empty, indent, c) := match depth with
    | none =>
      let (empty, deepest, c) := measure (c.rest.length + 1) [] 0 c
      (empty, max least deepest, c)
    | some n =>
      let indent := least + n - 1
      let (empty, c) := breaks indent (c.rest.length + 1) [] c
      (empty, indent, c)
  let (text, last, more, c) :=
    if c.column = indent && !c.rest.isEmpty then
      lines folded indent (c.rest.length + 1) [] empty c
    else ([], [], empty, c)
  let ending : Text := match chomp with
    | .keep => last ++ more
    | .one  => last
    | .drop => []
  return (text ++ ending, c)

end Settle.Yaml.Block

import Settle.Yaml.Cursor

/-!
# Plain scalars

Text without quotes goes on until something follows that has a meaning of its own, and over line
breaks as long as the lines are indented. A single break counts as a space.
-/

namespace Settle.Yaml.Plain

/-- Ends a scalar between brackets or braces. -/
def isFlow (c : CodePoint) : Bool := isOf ",[]\x7b\x7d" c

/-- How much of a text belongs to the scalar on this line; `flow` between brackets or braces. -/
def extent (flow : Bool) : Text → Nat
  | []     => 0
  | d :: r =>
    if isBlank d || isBreak d then 0
    else if d = ':' && orEnd (fun e => isBlank e || isBreak e || flow && isFlow e) r.head? then 0
    else if flow && (isFlow d || d = '?') then 0
    else extent flow r + 1

/-- Breaks and spaces from the beginning of a line on; none if a mark follows a break. -/
def breaks : Nat → Text → Cursor → Option Text × Cursor
  | 0,        seen, c => (some seen, c)
  | fuel + 1, seen, c =>
    if c.sees isSpace then breaks fuel seen c.next
    else if c.sees isBreak then
      let (b, c) := c.takeBreak
      if c.seesMark then (none, c) else breaks fuel (seen ++ b) c
    else (some seen, c)

/-- What stands between two parts: its text, where it ends, and whether it breaks the line. -/
def gap (c : Cursor) : Text × Cursor × Bool :=
  let (spaces, c) := c.takeWhile isSpace
  if c.sees isBreak then
    let (b, c) := c.takeBreak
    if c.seesMark then ([], c, true)
    else
      match breaks (c.rest.length + 1) [] c with
      | (none, c)      => ([], c, true)
      | (some more, c) =>
        let first : Text := if b ≠ "\n" then b else if more.isEmpty then " " else []
        (first ++ more, c, true)
  else (spaces, c, false)

/-- The parts from a gap on. -/
def parts (flow : Bool) (indent : Int) : Nat → Text → Text → Bool → Cursor → Text × Cursor × Bool
  | 0,        seen, _,      broken, c => (seen, c, broken)
  | fuel + 1, seen, before, broken, c =>
    let n := extent flow c.rest
    if c.seesChar '#' || n = 0 then (seen, c, broken)
    else
      let seen := seen ++ before ++ c.rest.take n
      let (space, c, broken) := gap (c.skip n)
      if space.isEmpty || c.seesChar '#' || (!flow && decide ((c.column : Int) < indent)) then
        (seen, c, broken)
      else parts flow indent fuel seen space broken c

/-- A plain scalar inside a block of some indentation: its text, where it ends, and whether a new
line has begun there. -/
def read (flow : Bool) (outer : Int) (c : Cursor) : Text × Cursor × Bool :=
  parts flow (outer + 1) (c.rest.length + 1) [] [] false c

end Settle.Yaml.Plain

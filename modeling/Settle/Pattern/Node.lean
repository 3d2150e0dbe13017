import Settle.Text.Basic

/-!
# Regular expressions

The tree of a regular expression. Flags are resolved while the tree is built: each node carries
what they mean for it.

Alternatives are not kept as they are written: what all of them begin with is taken out in front,
and if single code points and sets are left, these become one set. That can be told apart only
where case does not count, since a set treats code points beyond the basic plane in its own way.
-/

namespace Settle.Pattern

/-- How code points are compared. -/
structure Mode where
  /-- Upper and lower case are the same. -/
  foldCase : Bool
  /-- Only the first 128 code points are letters, digits or blanks, and have case. -/
  ascii    : Bool
  deriving DecidableEq

/-- The classes that have an escape. -/
inductive Category where
  | digit
  | blank
  | word
  deriving DecidableEq

/-- One entry between brackets. -/
inductive Entry where
  | point (c : CodePoint)
  | range (lo hi : CodePoint)
  | category (k : Category) (negated : Bool)
  deriving DecidableEq

/-- A condition on the place between two code points. -/
inductive Anchor where
  | textStart
  /-- The start of the text, as the start of its first line. -/
  | firstLineStart
  | lineStart
  | textEnd
  | lineEnd
  /-- The end of the text, or before a line feed that ends it. -/
  | finalLineEnd
  | wordEdge (ascii : Bool)
  | noWordEdge (ascii : Bool)
  deriving DecidableEq

/-- Which number of repetitions is tried first, and whether others are tried. -/
inductive Greed where
  | greedy
  | lazy
  | possessive
  deriving DecidableEq

inductive Node where
  | empty
  | point (c : CodePoint) (negated : Bool) (mode : Mode)
  | oneOf (entries : List Entry) (negated : Bool) (mode : Mode)
  /-- Any code point, but a line feed only if `lineFeed`. -/
  | any (lineFeed : Bool)
  | anchor (a : Anchor)
  | seq (first second : Node)
  | alt (first second : Node)
  /-- At least `min` and at most `max?` repetitions. -/
  | loop (greed : Greed) (min : Nat) (max? : Option Nat) (body : Node)
  /-- Captures what the body matches as group `index`, counted from one. -/
  | group (index : Nat) (body : Node)
  /-- Gives up no part of the first match of the body. -/
  | atomic (body : Node)
  | ahead (negated : Bool) (body : Node)
  | behind (negated : Bool) (body : Node)
  /-- What group `index` has captured, of a width between the bounds given. -/
  | backref (index : Nat) (least : Nat) (most? : Option Nat) (mode : Mode)
  /-- The first branch if group `index` has captured something, else the second. -/
  | whether (index : Nat) (yes no : Node)
  /-- A body with flags of its own, which is one item of its row. -/
  | flagged (body : Node)
  deriving DecidableEq

namespace Node

/-- The nodes one after another. -/
def ofList : List Node → Node
  | []      => .empty
  | [n]     => n
  | n :: ns => .seq n (ofList ns)

/-- The items of a row. -/
def items : Node → List Node
  | .empty   => []
  | .seq a b => a.items ++ b.items
  | n        => [n]

/-- An item with no expression in it. Two such items can be the same. -/
def isSimple : Node → Bool
  | .point .. | .oneOf .. | .any _ | .anchor _ | .backref .. => true
  | _ => false

/-- The items that a row and all others begin with, and what is left of the row and the others. -/
def splitCommon : List Node → List (List Node) → List Node × List Node × List (List Node)
  | [],       rows => ([], [], rows)
  | n :: row, rows =>
    if n.isSimple && rows.all (·.head? = some n) then
      let (common, left) := splitCommon row (rows.map List.tail)
      (n :: common, left)
    else ([], n :: row, rows)

/-- The entries of a row that is a single code point or a set. -/
def entries? : List Node → Option (List Entry × Mode)
  | [.point c false m]  => some ([.point c], m)
  | [.oneOf es false m] => some (es, m)
  | _                   => none

/-- Rows as alternatives, the first of them tried first. -/
def ofRows : List (List Node) → Node
  | []          => .empty
  | [row]       => ofList row
  | row :: rows => .alt (ofList row) (ofRows rows)

/-- Rows as one set if each is a single code point or a set, which then are of one mode. -/
def ofDistinctRows (rows : List (List Node)) : Node :=
  match rows.mapM entries? with
  | some ((es, m) :: more) => .oneOf (es ++ more.flatMap Prod.fst).eraseDups false m
  | _                      => ofRows rows

/-- The nodes as alternatives. -/
def ofAlternatives : List Node → Node
  | []      => .empty
  | [n]     => n
  | n :: ns =>
    let (common, row, rows) := splitCommon n.items (ns.map items)
    ofList (common ++ [ofDistinctRows (row :: rows)])

/-- The greatest number of any group in the tree. -/
def groupCount : Node → Nat
  | .seq a b | .alt a b       => max a.groupCount b.groupCount
  | .loop _ _ _ b | .atomic b => b.groupCount
  | .ahead _ b | .behind _ b  => b.groupCount
  | .flagged b                => b.groupCount
  | .group i b                => max i b.groupCount
  | .whether i a b            => max i (max a.groupCount b.groupCount)
  | .backref i _ _ _          => i
  | _                         => 0

/-- A bound on a product, where none is no bound; nothing repeated often is nothing. -/
def timesMost : Option Nat → Option Nat → Option Nat
  | some 0, _      => some 0
  | _, some 0      => some 0
  | some a, some b => some (a * b)
  | _, _           => none

def plusMost (a b : Option Nat) : Option Nat := do return (← a) + (← b)

def maxMost (a b : Option Nat) : Option Nat := do return max (← a) (← b)

/-- The least and the greatest number of code points that a match takes. -/
def width : Node → Nat × Option Nat
  | .empty | .anchor _ | .ahead .. | .behind .. => (0, some 0)
  | .point .. | .oneOf .. | .any _              => (1, some 1)
  | .seq a b => (a.width.1 + b.width.1, plusMost a.width.2 b.width.2)
  | .alt a b => (min a.width.1 b.width.1, maxMost a.width.2 b.width.2)
  | .loop _ lo hi b => (b.width.1 * lo, timesMost b.width.2 hi)
  | .group _ b | .atomic b | .flagged b => b.width
  | .backref _ lo hi _ => (lo, hi)
  | .whether _ a b => (min a.width.1 b.width.1, maxMost a.width.2 b.width.2)

end Node

end Settle.Pattern

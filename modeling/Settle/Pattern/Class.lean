import Settle.Pattern.Node
import Settle.Text.Case.Fold
import Settle.Text.Class.Alphanumeric
import Settle.Text.Class.Blank
import Settle.Text.Class.Digit

/-!
# Which code points a node takes

Single code points and sets are compared with the subject as they are, or by their lower-case
forms. A range holds a lower-case letter if it holds any letter with that lower-case form.
-/

namespace Settle.Pattern

/-- Letters, digits and the low line. -/
def isWord (ascii : Bool) (c : CodePoint) : Bool :=
  c = '_' || if ascii then c.isLetter || c.isDigit else c.isAlphanumeric

/-- A code point of a class. -/
def Category.holds (ascii : Bool) (c : CodePoint) : Category → Bool
  | .digit => if ascii then c.isDigit else c.isDecimal
  | .blank => if ascii then c.isAsciiBlank else c.isBlank
  | .word  => isWord ascii c

namespace Mode

def lower (m : Mode) (c : CodePoint) : CodePoint := if m.ascii then c.asciiLower else c.lower

/-- Has a form in another case. -/
def isCased (m : Mode) (c : CodePoint) : Bool := if m.ascii then c.isAsciiCased else c.isCased

/-- The lower-case letters that are the same as the lower-case letter `c`. -/
def lowerClass (m : Mode) (c : CodePoint) : List CodePoint :=
  if m.ascii then [c] else c.lowerClass

/-- The code points whose lower-case form is `c`. -/
def sources (m : Mode) (c : CodePoint) : List CodePoint :=
  let own := if m.lower c = c then [c] else []
  let runs : List CaseRun := if m.ascii then [] else CodePoint.lowerRuns
  let ascii := (CodePoint.ofNat? (c.val - 32)).toList.filter fun d => d.isUpper && d.asciiLower = c
  own ++ ascii ++ runs.filterMap fun r =>
    let n := ((c.val : Int) - r.shift).toNat
    if r.covers n then CodePoint.ofNat? n else none

end Mode

/-- The last code point of the basic plane. -/
def basicLimit : Nat := 0xFFFF

namespace Entry

/-- Holds the code point as it is. -/
def holds (ascii : Bool) (c : CodePoint) : Entry → Bool
  | .point d            => c = d
  | .range lo hi        => lo ≤ c && c ≤ hi
  | .category k negated => k.holds ascii c != negated

/-- Holds a code point that has a form in another case, or lies beyond the basic plane. -/
def hasCase (m : Mode) : Entry → Bool
  | .point d      => m.isCased d || basicLimit < d.val
  | .range lo hi  =>
    basicLimit < hi.val ||
      (List.range (hi.val + 1 - lo.val)).any fun i =>
        ((CodePoint.ofNat? (lo.val + i)).map m.isCased).getD false
  | .category ..  => false

/-- Holds a code point with the lower-case form `c`. Beyond the basic plane a range holds the
letters whose lower-case form lies in it, or what their upper-case form begins with, and a point
only itself. -/
def holdsLower (m : Mode) (c : CodePoint) : Entry → Bool
  | .point d =>
    if d.val ≤ basicLimit then (m.lowerClass (m.lower d)).contains c else c = d
  | .range lo hi =>
    ((m.lowerClass c).flatMap m.sources).any (fun d => lo ≤ d && d ≤ hi && d.val ≤ basicLimit) ||
      (basicLimit < hi.val && ((lo ≤ c && c ≤ hi) || (lo ≤ c.upperHead && c.upperHead ≤ hi)))
  | .category k negated => k.holds m.ascii c != negated

end Entry

/-- A single code point is the code point `c`, perhaps but for case. -/
def samePoint (m : Mode) (d c : CodePoint) : Bool :=
  if m.foldCase && m.isCased d then (m.lowerClass (m.lower d)).contains (m.lower c)
  else c = d

/-- A set holds the code point `c`, perhaps but for case. -/
def inEntries (m : Mode) (entries : List Entry) (c : CodePoint) : Bool :=
  if m.foldCase && entries.any (·.hasCase m) then entries.any (·.holdsLower m (m.lower c))
  else entries.any (·.holds m.ascii c)

/-- Two code points are the same, perhaps but for case. -/
def sameFolded (m : Mode) (c d : CodePoint) : Bool :=
  if m.foldCase then m.lower c = m.lower d else c = d

end Settle.Pattern

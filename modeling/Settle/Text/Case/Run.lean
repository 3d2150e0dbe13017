import Settle.Text.Basic

/-!
# Case maps as runs

Upper- and lower-case letters mostly alternate or lie a fixed distance apart, so a case map is a
short list of runs.
-/

namespace Settle

/-- Every `stride`-th code point from `first` to `last` moves by `shift`. -/
structure CaseRun where
  first  : Nat
  last   : Nat
  stride : Nat
  shift  : Int

namespace CaseRun

def covers (r : CaseRun) (n : Nat) : Bool :=
  r.first ≤ n && n ≤ r.last && (n - r.first) % r.stride == 0

/-- Moves a code point by the first run that covers it. -/
def apply (runs : List CaseRun) (c : CodePoint) : CodePoint :=
  match runs.find? (·.covers c.val) with
  | none   => c
  | some r => (CodePoint.ofNat? (c.val + r.shift).toNat).getD c

end CaseRun

end Settle

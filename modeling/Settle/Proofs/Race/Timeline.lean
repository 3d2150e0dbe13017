import Settle.Proofs.Poll.WaitsUntil
import Settle.Proofs.Race.Calls

/-!
# When checks take place

Over exact times, where reads and checks have a source each, the checks of a race have their times
from the start, the pause between them and their delays. A check takes place if it begins before
the deadline and before the wait alone ends, and no earlier check has found a match. The last check,
the end of the wait alone and the deadline tell how the race ends (`Settles`).
-/

namespace Settle

namespace Race

variable (r : Race ℚ) (checks : Source ℚ Value) (now : ℚ)

/-- When the first so many checks have come back, if the race goes on until then. -/
def checksEnd : Nat → ℚ
  | 0     => now
  | k + 1 => checksEnd k + r.interval + (checks k).delay

/-- When a check begins, counted from zero. -/
def checkStart (k : Nat) : ℚ := r.checksEnd checks now k + r.interval

/-- The first so many checks find no match. -/
def Unmatched (k : Nat) : Prop := ∀ j < k, ∀ a, ¬ r.Matches (checks j) a

/-- A check begins before the deadline and before the wait ends, and no earlier one finds a
match. -/
structure Performs (T : WithTop ℚ) (k : Nat) : Prop where
  started   : (r.checkStart checks now k : WithTop ℚ) < min T r.poll.deadline.expiry
  unmatched : r.Unmatched checks k

/-- How a race ends after so many checks, at which time and with which outcome, if the wait alone
lasts until `T` and has the outcome `w`. -/
inductive Settles (T : WithTop ℚ) (w : Except Failure Unit) :
    Nat → ℚ → Except Failure Unit → Prop where
  /-- The last check finds a match. -/
  | aborted {k : Nat} {a : Abort} (performs : r.Performs checks now T k)
      (matched : r.Matches (checks k) a) :
      Settles T w (k + 1) (r.checksEnd checks now (k + 1)) (.error (.aborted a))
  /-- The wait has ended by the deadline or by the end of the last check. -/
  | waited {k : Nat} {t : ℚ} (performs : ∀ j < k, r.Performs checks now T j)
      (ceased : min T r.poll.deadline.expiry ≤ r.checkStart checks now k)
      (unmatched : r.Unmatched checks k)
      (first : T ≤ max r.poll.deadline.expiry ↑(r.checksEnd checks now k))
      (time : (t : WithTop ℚ) = max T ↑(r.checksEnd checks now k)) : Settles T w k t w
  /-- The wait has not ended before the deadline and the end of the last check. -/
  | expired {k : Nat} {t : ℚ} (performs : ∀ j < k, r.Performs checks now T j)
      (ceased : min T r.poll.deadline.expiry ≤ r.checkStart checks now k)
      (unmatched : r.Unmatched checks k) (begun : (now : WithTop ℚ) < r.poll.deadline.expiry)
      (first : max r.poll.deadline.expiry ↑(r.checksEnd checks now k) ≤ T)
      (time : (t : WithTop ℚ) = max r.poll.deadline.expiry ↑(r.checksEnd checks now k)) :
      Settles T w k t (.error (.expired ("resource " ++ r.poll.name)))

/-- There is a pause between checks, and they do not come back before they begin. -/
structure Regular : Prop where
  interval_pos : 0 < r.interval
  delay_nonneg : ∀ k, 0 ≤ (checks k).delay

variable {r checks now}

lemma Unmatched.concat {k : Nat} (h : r.Unmatched checks k)
    (hk : ∀ a, ¬ r.Matches (checks k) a) : r.Unmatched checks (k + 1) := by
  intro j hj
  rcases Nat.lt_succ_iff_lt_or_eq.mp hj with hj | rfl
  · exact h j hj
  · exact hk

lemma forall_performs_succ {T : WithTop ℚ} {k : Nat} (h : ∀ j < k, r.Performs checks now T j)
    (hk : r.Performs checks now T k) : ∀ j < k + 1, r.Performs checks now T j := by
  intro j hj
  rcases Nat.lt_succ_iff_lt_or_eq.mp hj with hj | rfl
  · exact h j hj
  · exact hk

namespace Regular

variable (h : r.Regular checks)
include h

variable (now) in
lemma checksEnd_lt_checkStart (k : Nat) : r.checksEnd checks now k < r.checkStart checks now k :=
  lt_add_of_pos_right _ h.interval_pos

lemma checkStart_le_checksEnd (k : Nat) :
    r.checkStart checks now k ≤ r.checksEnd checks now (k + 1) :=
  le_add_of_nonneg_right (h.delay_nonneg k)

lemma checkStart_strictMono : StrictMono (r.checkStart checks now) :=
  strictMono_nat_of_lt_succ fun k =>
    lt_of_le_of_lt (h.checkStart_le_checksEnd k) (h.checksEnd_lt_checkStart now (k + 1))

variable (now) in
lemma add_mul_interval_le (k : Nat) : now + k * r.interval ≤ r.checksEnd checks now k := by
  induction k with
  | zero => simp [checksEnd]
  | succ k ih =>
    have hdelay := h.delay_nonneg k
    rw [checksEnd, Nat.cast_succ, add_mul, one_mul]
    linarith

/-- Checks that begin before some time are as many as pauses fit until then. -/
lemma lt_ceil_of_checkStart_lt {k : Nat} {t : ℚ} (hk : r.checkStart checks now k < t) :
    k < ⌈(t - now) / r.interval⌉₊ := by
  have hend := h.add_mul_interval_le now k
  have hstart := h.checksEnd_lt_checkStart now k
  rw [Nat.lt_ceil, lt_div_iff₀ h.interval_pos]
  linarith

end Regular

end Race

end Settle

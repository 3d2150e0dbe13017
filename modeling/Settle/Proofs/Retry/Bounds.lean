import Mathlib.Data.List.Pairwise
import Settle.Proofs.Retry.Attempts
import Settle.Proofs.Retry.ClosedForm

/-!
# How long attempts go on

Over exact times, attempts end even if any number of them is allowed. The pauses do not shrink and
lie between the shorter of the first one and the limit, and the limit. An attempt is followed by
another one only before the timeout, so the attempts are no more than such pauses until then, and
none of them begins later behind the timeout than the limit.
-/

namespace Settle

namespace Event

variable {τ : Type}

/-- The span of a pause. -/
def span? : Event τ → Option τ
  | .sleep _ span => some span
  | _             => none

/-- What is not told of notices is told by calls and pauses alone. -/
lemma filterMap_filter_isAction {β : Type} {f : Event τ → Option β}
    (hf : ∀ n, f (.notice n) = none) (events : List (Event τ)) :
    (events.filter isAction).filterMap f = events.filterMap f := by
  rw [List.filterMap_filter]
  congr 1
  funext e
  cases e with
  | notice n => exact (hf n).symm
  | call | sleep => rfl

end Event

/-- The pauses, in order. -/
def Ended.pauses {τ α : Type} (e : Ended τ α) : List τ := e.events.filterMap Event.span?

namespace Backoff

lemma rest_le_limit (b : Backoff ℚ) (n : Nat) : b.rest n ≤ b.limit := min_le_right _ _

lemma Growing.rest_monotone {b : Backoff ℚ} (h : b.Growing) : Monotone b.rest :=
  monotone_nat_of_le_succ fun n => by
    have hfactor : b.initial * b.factor ^ n ≤ b.initial * b.factor ^ (n + 1) :=
      mul_le_mul_of_nonneg_left (pow_le_pow_right₀ h.one_le_factor n.le_succ)
        (le_of_lt h.initial_pos)
    exact min_le_min_right _ hfactor

end Backoff

namespace Retry

variable {α : Type} {r : Retry ℚ} {source : Source ℚ α} {now : ℚ}

/-! ### The attempts of a run -/

lemma writes_actionsBefore (n : Nat) :
    (r.actionsBefore source now n).filterMap (Event.timeOf? .write)
      = (List.range n).map (r.attemptStart source now) := by
  rw [actionsBefore, List.filterMap_flatMap, List.map_eq_flatMap]
  rfl

lemma pauses_actionsBefore (n : Nat) :
    (r.actionsBefore source now n).filterMap Event.span?
      = (List.range n).map r.backoff.rest := by
  rw [actionsBefore, List.filterMap_flatMap, List.map_eq_flatMap]
  rfl

/-- What a run with enough fuel does: the attempts up to the last one, and the pauses between
them. -/
lemma exists_run_of_last (hgrowing : r.backoff.Growing) (hdelay : ∀ n, 0 ≤ (source n).delay)
    {n : Nat} {o : Except Failure α} (hlast : r.Last source now n o) :
    ∃ e, (∀ fuel > n, r.run source fuel now = some e) ∧
      e.time = r.attemptEnd source now n ∧ e.outcome = o ∧
      e.times .write = (List.range (n + 1)).map (r.attemptStart source now) ∧
      e.pauses = (List.range n).map r.backoff.rest := by
  obtain ⟨before, hbefore, hrun⟩ := runFrom_add hgrowing hdelay hlast.goesOn
  obtain ⟨final, hfinal, hend⟩ := runFrom_of_concludes hdelay hlast.concludes 0
  let e : Ended ℚ α :=
    ⟨r.attemptEnd source now n, o, .notice (.applying r.label) :: (before ++ final)⟩
  have hactions : e.events.filter Event.isAction
      = r.actionsBefore source now n ++ [.call .write (r.attemptStart source now n)] := by
    simp [e, Event.isAction, hbefore, hfinal]
  have hends : r.run source (n + 1) now = some e := by
    rw [run, hrun, hend]
    rfl
  refine ⟨e, fun fuel hfuel => run_of_le hends hfuel, rfl, rfl, ?_, ?_⟩
  · rw [Ended.times, ← Event.filterMap_filter_isAction fun _ => rfl, hactions,
      List.filterMap_append, writes_actionsBefore, List.range_succ, List.map_append]
    rfl
  · rw [Ended.pauses, ← Event.filterMap_filter_isAction fun _ => rfl, hactions,
      List.filterMap_append, pauses_actionsBefore]
    exact List.append_nil _

/-! ### Bounds -/

section Bounds

variable (hgrowing : r.backoff.Growing) (hdelay : ∀ n, 0 ≤ (source n).delay)

/-- An attempt that goes on comes back before the timeout. -/
lemma attemptEnd_lt_of_goesOn {n : Nat} (h : r.GoesOn source now n) :
    r.attemptEnd source now n < now + r.backoff.timeout := by
  by_contra hle
  have hconcludes : ∃ o, r.Concludes source now n o :=
    exists_concludes (Or.inr (by linarith))
  exact not_exists.mpr h hconcludes

include hgrowing hdelay in
/-- The attempts before one that goes on are no more than the shortest pauses until the timeout. -/
lemma lt_ceil_of_goesOn {n : Nat} (h : r.GoesOn source now n) :
    n < ⌈r.backoff.timeout / min r.backoff.initial r.backoff.limit⌉₊ := by
  rw [Nat.lt_ceil, lt_div_iff₀ hgrowing.min_pos]
  have hstart := add_mul_le_attemptStart now hgrowing hdelay n
  have hend := attemptEnd_lt_of_goesOn h
  have hback := hdelay n
  rw [attemptEnd] at hend
  linarith

/-- No attempt begins later behind the timeout than the limit. -/
lemma attemptStart_lt (hgrowing : r.backoff.Growing) (htimeout : 0 < r.backoff.timeout) {n : Nat}
    (h : ∀ j < n, r.GoesOn source now j) :
    r.attemptStart source now n < now + r.backoff.timeout + r.backoff.limit := by
  cases n with
  | zero =>
    have hlimit := hgrowing.limit_pos
    rw [attemptStart]
    linarith
  | succ n =>
    have hend := attemptEnd_lt_of_goesOn (h n n.lt_succ_self)
    have hrest := r.backoff.rest_le_limit n
    rw [attemptEnd] at hend
    rw [attemptStart]
    linarith

end Bounds

/-- However many retries are allowed and however long the writes take, attempts end, and more fuel
does not change how. The pauses between them do not shrink and are not shorter than the first one
or the limit, whichever is less, and not longer than the limit. There is one attempt more at most
than such pauses until the timeout, rounded up, and than retries allowed; each begins before the
limit has passed behind the timeout, so the end comes before that and the delay of the last write.
Attempts are given up only behind the timeout or when all retries have been made. -/
theorem ends_within_limit_of_timeout (r : Retry ℚ) (hgrowing : r.backoff.Growing)
    (htimeout : 0 < r.backoff.timeout) (source : Source ℚ α) (hdelay : ∀ n, 0 ≤ (source n).delay)
    (now : ℚ) :
    let least := min r.backoff.initial r.backoff.limit
    let latest := now + r.backoff.timeout + r.backoff.limit
    ∃ n e, (∀ fuel > n, r.run source fuel now = some e) ∧
      e.pauses.Pairwise (· ≤ ·) ∧
      (∀ span ∈ e.pauses, least ≤ span ∧ span ≤ r.backoff.limit) ∧
      (e.times .write).length = n + 1 ∧
      n + 1 ≤ ⌈r.backoff.timeout / least⌉₊ + 1 ∧
      (0 < r.backoff.retries → n + 1 ≤ r.backoff.retries + 1) ∧
      (∀ t ∈ e.times .write, t < latest) ∧
      e.time < latest + (source n).delay ∧
      ∀ attempts last, e.outcome = .error (.exhausted attempts last) →
        (source n).result = .error (.permanent (.exhausted attempts last)) ∨
          attempts = n + 1 ∧ (r.backoff.timeout ≤ e.time - now ∨
            0 < r.backoff.retries ∧ attempts = r.backoff.retries + 1) := by
  intro least latest
  have hexists : ∃ n o, r.Last source now n o := exists_last hgrowing hdelay
  obtain ⟨n, o, hlast⟩ := hexists
  obtain ⟨e, hrun, htime, houtcome, hwrites, hpauses⟩ :=
    exists_run_of_last hgrowing hdelay hlast
  refine ⟨n, e, hrun, ?_, ?_, ?_, ?_, ?_, ?_, ?_, ?_⟩
  · rw [hpauses, List.pairwise_map]
    exact List.pairwise_lt_range.imp fun hlt => hgrowing.rest_monotone (le_of_lt hlt)
  · intro span hspan
    rw [hpauses] at hspan
    obtain ⟨j, -, rfl⟩ := List.mem_map.mp hspan
    exact ⟨hgrowing.min_le_rest j, r.backoff.rest_le_limit j⟩
  · rw [hwrites, List.length_map, List.length_range]
  · cases n with
    | zero => exact Nat.le_add_left 1 _
    | succ n =>
      exact Nat.succ_le_succ (lt_ceil_of_goesOn hgrowing hdelay (hlast.goesOn n n.lt_succ_self))
  · intro hretries
    exact Nat.succ_le_succ (le_retries_of_goesOn hlast.goesOn hretries)
  · intro t ht
    rw [hwrites] at ht
    obtain ⟨j, hj, rfl⟩ := List.mem_map.mp ht
    have hle : j ≤ n := Nat.le_of_lt_succ (List.mem_range.mp hj)
    exact attemptStart_lt hgrowing htimeout fun i hi => hlast.goesOn i (lt_of_lt_of_le hi hle)
  · have hstart := attemptStart_lt hgrowing htimeout hlast.goesOn
    rw [htime, attemptEnd]
    exact add_lt_add_left hstart _
  · intro attempts last hexhausted
    rw [houtcome] at hexhausted
    subst hexhausted
    cases hlast.concludes with
    | forGood result => exact Or.inl result
    | exhausted result another ceased =>
      refine Or.inr ⟨rfl, ?_⟩
      rw [htime]
      exact ceased.symm

/-- Refused writes that may be retried any number of times in three units. -/
def patientRetry : Retry ℚ := ⟨"web", ⟨3, 0, 1, 2, 2⟩⟩

theorem patientRetry_ends :
    patientRetry.backoff.Growing ∧ 0 < patientRetry.backoff.timeout ∧
      (∀ n, 0 ≤ (refusingSource n).delay) ∧
      ∃ n e, patientRetry.run refusingSource (n + 1) 0 = some e ∧
        (e.times .write).length ≤ 4 ∧ e.time < 6 := by
  have hgrowing : patientRetry.backoff.Growing := by constructor <;> norm_num [patientRetry]
  have htimeout : 0 < patientRetry.backoff.timeout := by norm_num [patientRetry]
  have hdelay : ∀ n, 0 ≤ (refusingSource n).delay := fun _ => zero_le_one
  obtain ⟨n, e, hrun, -, -, hlength, hceil, -, -, htime, -⟩ :=
    ends_within_limit_of_timeout patientRetry hgrowing htimeout refusingSource hdelay 0
  refine ⟨hgrowing, htimeout, hdelay, n, e, hrun _ n.lt_succ_self, ?_, ?_⟩
  · rw [hlength]
    norm_num [patientRetry] at hceil ⊢
    omega
  · norm_num [patientRetry, refusingSource] at htime
    exact htime

end Retry

end Settle

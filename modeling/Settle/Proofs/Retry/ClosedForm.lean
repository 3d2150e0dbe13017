import Mathlib.Tactic.NormNum
import Settle.Apply.Retry
import Settle.Proofs.Clock.Exact

/-!
# Which attempt is the last one

Over exact times the attempts to write have their times from the start, the delays and the pauses
alone. An attempt is the last one if it succeeds, fails for good, or comes back when the backoff is
over. Some attempt is the last one, since the pauses do not get shorter than the first one or the
limit, and the run is the attempts up to it.
-/

namespace Settle

namespace Event

variable {τ : Type}

/-- A call or a pause. -/
def isAction : Event τ → Bool
  | .notice _ => false
  | _         => true

@[simp] lemma filter_isAction_events {α : Type} (reply : Reply τ α) (c : Call) (t : τ) :
    (reply.events c t).filter isAction = [.call c t] := by
  have hnotices : (reply.notices.map Event.notice).filter isAction = [] := by
    simp [List.filter_eq_nil_iff, isAction]
  rw [Reply.events, List.filter_cons_of_pos rfl, hnotices]

end Event

/-! ### Pauses -/

instance : GrowingScale ℚ where
  power? x n := some (x ^ n)

namespace Backoff

/-- The pauses are positive and do not shrink. -/
structure Growing (b : Backoff ℚ) : Prop where
  initial_pos   : 0 < b.initial
  limit_pos     : 0 < b.limit
  one_le_factor : 1 ≤ b.factor

/-- The pause after an attempt, counted from zero. -/
def rest (b : Backoff ℚ) (n : Nat) : ℚ := min (b.initial * b.factor ^ n) b.limit

variable {b : Backoff ℚ}

lemma isOver_iff {start back : ℚ} {n : Nat} :
    b.isOver start (n + 1) back = true ↔
      b.timeout ≤ back - start ∨ 0 < b.retries ∧ b.retries ≤ n := by
  simp [isOver, Nat.pos_iff_ne_zero]

namespace Growing

variable (h : b.Growing)
include h

lemma min_pos : 0 < min b.initial b.limit := lt_min h.initial_pos h.limit_pos

lemma min_le_rest (n : Nat) : min b.initial b.limit ≤ b.rest n :=
  min_le_min_right _ (le_mul_of_one_le_right (le_of_lt h.initial_pos) (one_le_pow₀ h.one_le_factor))

lemma rest_pos (n : Nat) : 0 < b.rest n := lt_of_lt_of_le h.min_pos (h.min_le_rest n)

lemma span_eq (n : Nat) : b.span (n + 1) = b.rest n := by
  have hspan : b.span (n + 1) = TimeScale.later 0 (TimeScale.earlier (b.initial * b.factor ^ n)
      b.limit) := rfl
  rw [hspan, TimeScale.later_eq_max, TimeScale.earlier_eq_min]
  exact max_eq_right (le_of_lt (h.rest_pos n))

end Growing

end Backoff

namespace Retry

variable {α : Type} (r : Retry ℚ) (source : Source ℚ α) (now : ℚ)

/-- When an attempt begins, counted from zero, if the attempts go on until then. -/
def attemptStart : Nat → ℚ
  | 0     => now
  | n + 1 => attemptStart n + (source n).delay + r.backoff.rest n

/-- When an attempt comes back. -/
def attemptEnd (n : Nat) : ℚ := r.attemptStart source now n + (source n).delay

/-- An attempt ends the attempts, and how. -/
inductive Concludes (n : Nat) : Except Failure α → Prop where
  | success {v : α} (result : (source n).result = .ok v) : Concludes n (.ok v)
  | forGood {cause : Failure} (result : (source n).result = .error (.permanent cause)) :
      Concludes n (.error cause)
  | exhausted {e : Failure} (result : (source n).result = .error e)
      (another : ∀ cause, e ≠ .permanent cause)
      (ceased : (0 < r.backoff.retries ∧ n + 1 = r.backoff.retries + 1) ∨
        r.backoff.timeout ≤ r.attemptEnd source now n - now) :
      Concludes n (.error (.exhausted (n + 1) e))

/-- An attempt does not end the attempts. -/
def GoesOn (n : Nat) : Prop := ∀ o, ¬ r.Concludes source now n o

/-- The first attempt that ends the attempts, and how. -/
structure Last (n : Nat) (o : Except Failure α) : Prop where
  concludes : r.Concludes source now n o
  goesOn    : ∀ j < n, r.GoesOn source now j

/-- What is done in the attempts before the `n`-th one. -/
def actionsBefore (n : Nat) : List (Event ℚ) :=
  (List.range n).flatMap fun j =>
    [.call .write (r.attemptStart source now j),
      .sleep (r.attemptEnd source now j) (r.backoff.rest j)]

variable {r source now}

/-- When the backoff is over, whatever comes back ends the attempts. -/
lemma exists_concludes {n : Nat}
    (ceased : (0 < r.backoff.retries ∧ n + 1 = r.backoff.retries + 1) ∨
      r.backoff.timeout ≤ r.attemptEnd source now n - now) :
    ∃ o, r.Concludes source now n o := by
  cases result : (source n).result with
  | ok v => exact ⟨_, .success result⟩
  | error e =>
    by_cases hcause : ∃ cause, e = .permanent cause
    · obtain ⟨cause, rfl⟩ := hcause
      exact ⟨_, .forGood result⟩
    · exact ⟨_, .exhausted result (not_exists.mp hcause) ceased⟩

/-- No attempt follows the last one that is allowed. -/
lemma le_retries_of_goesOn {n : Nat} (hn : ∀ j < n, r.GoesOn source now j)
    (hretries : 0 < r.backoff.retries) : n ≤ r.backoff.retries := by
  by_contra hlt
  have hlast : ∃ o, r.Concludes source now r.backoff.retries o :=
    exists_concludes (Or.inl ⟨hretries, rfl⟩)
  exact not_exists.mpr (hn _ (not_le.mp hlt)) hlast

/-! ### One attempt -/

lemma runFrom_of_error {start t : ℚ} {fuel n : Nat} {e : Failure}
    (result : (source n).result = .error e) (another : ∀ cause, e ≠ .permanent cause) :
    r.runFrom source start (fuel + 1) n t =
      let back := TimeScale.pause t (source n).delay
      let events := (source n).events .write t
      if r.backoff.isOver start (n + 1) back then
        some ⟨back, .error (.exhausted (n + 1) e),
          events ++ [.notice (.givingUp r.label (n + 1))]⟩
      else
        let span := r.backoff.span (n + 1)
        (r.runFrom source start fuel (n + 1) (TimeScale.pause back span)).map
          (·.after (events ++ [.notice (.retrying span e), .sleep back span])) := by
  rw [runFrom, result]
  cases e with
  | permanent cause => exact absurd rfl (another cause)
  | _ => rfl

lemma runFrom_of_concludes (hdelay : ∀ n, 0 ≤ (source n).delay) {n : Nat} {o : Except Failure α}
    (h : r.Concludes source now n o) (fuel : Nat) :
    ∃ events, events.filter Event.isAction = [.call .write (r.attemptStart source now n)] ∧
      r.runFrom source now (fuel + 1) n (r.attemptStart source now n)
        = some ⟨r.attemptEnd source now n, o, events⟩ := by
  have hback : TimeScale.pause (r.attemptStart source now n) (source n).delay
      = r.attemptEnd source now n := TimeScale.pause_of_nonneg _ (hdelay n)
  cases h with
  | success result =>
    simp only [runFrom, result, hback]
    exact ⟨_, by simp [Event.isAction], rfl⟩
  | forGood result =>
    simp only [runFrom, result, hback]
    exact ⟨_, by simp [Event.isAction], rfl⟩
  | exhausted result another ceased =>
    have hover : r.backoff.isOver now (n + 1) (r.attemptEnd source now n) = true := by
      rw [Backoff.isOver_iff]
      exact ceased.symm.imp_right fun ⟨hpos, hn⟩ => ⟨hpos, le_of_eq (Nat.succ.inj hn.symm)⟩
    simp only [runFrom_of_error result another, hback, hover, if_true]
    exact ⟨_, by simp [Event.isAction], rfl⟩

lemma runFrom_of_goesOn (hgrowing : r.backoff.Growing) (hdelay : ∀ n, 0 ≤ (source n).delay)
    {n : Nat} (hbefore : ∀ j ≤ n, r.GoesOn source now j) :
    ∃ events, events.filter Event.isAction
        = [.call .write (r.attemptStart source now n),
            .sleep (r.attemptEnd source now n) (r.backoff.rest n)] ∧
      ∀ fuel, r.runFrom source now (fuel + 1) n (r.attemptStart source now n)
        = (r.runFrom source now fuel (n + 1) (r.attemptStart source now (n + 1))).map
            (·.after events) := by
  have hn := hbefore n le_rfl
  have hback : TimeScale.pause (r.attemptStart source now n) (source n).delay
      = r.attemptEnd source now n := TimeScale.pause_of_nonneg _ (hdelay n)
  have hnext : TimeScale.pause (r.attemptEnd source now n) (r.backoff.rest n)
      = r.attemptStart source now (n + 1) :=
    TimeScale.pause_of_nonneg _ (le_of_lt (hgrowing.rest_pos n))
  cases result : (source n).result with
  | ok v => exact absurd (.success result) (hn (.ok v))
  | error e =>
    have another : ∀ cause, e ≠ .permanent cause := by
      rintro cause rfl
      exact hn _ (.forGood result)
    have hover : r.backoff.isOver now (n + 1) (r.attemptEnd source now n) = false := by
      rw [← Bool.not_eq_true, Backoff.isOver_iff]
      rintro (htime | ⟨hpos, hle⟩)
      · exact hn _ (.exhausted result another (Or.inr htime))
      · have hretries := le_retries_of_goesOn (fun j hj => hbefore j (le_of_lt hj)) hpos
        exact hn _ (.exhausted result another (Or.inl ⟨hpos, by omega⟩))
    simp only [runFrom_of_error result another, hback, hover, hgrowing.span_eq, hnext]
    exact ⟨_, by simp [Event.isAction], fun fuel => rfl⟩

/-! ### All attempts -/

lemma runFrom_add (hgrowing : r.backoff.Growing) (hdelay : ∀ n, 0 ≤ (source n).delay) {n : Nat}
    (hbefore : ∀ j < n, r.GoesOn source now j) :
    ∃ events, events.filter Event.isAction = r.actionsBefore source now n ∧
      ∀ fuel, r.runFrom source now (n + fuel) 0 now
        = (r.runFrom source now fuel n (r.attemptStart source now n)).map (·.after events) := by
  induction n with
  | zero => exact ⟨[], rfl, fun fuel => by simp [attemptStart, Ended.after]⟩
  | succ n ih =>
    obtain ⟨events, hactions, hrun⟩ := ih fun j hj => hbefore j (Nat.lt_succ_of_lt hj)
    obtain ⟨more, hmore, hstep⟩ :=
      runFrom_of_goesOn hgrowing hdelay fun j hj => hbefore j (Nat.lt_succ_of_le hj)
    refine ⟨events ++ more, ?_, fun fuel => ?_⟩
    · simp [hactions, hmore, actionsBefore, List.range_succ]
    · rw [Nat.succ_add_eq_add_succ, hrun, hstep, Option.map_map]
      simp [Function.comp_def, Ended.after]

variable (now) in
lemma add_mul_le_attemptStart (hgrowing : r.backoff.Growing) (hdelay : ∀ n, 0 ≤ (source n).delay)
    (n : Nat) : now + n * min r.backoff.initial r.backoff.limit ≤ r.attemptStart source now n := by
  induction n with
  | zero => simp [attemptStart]
  | succ n ih =>
    have hrest := hgrowing.min_le_rest n
    have hn := hdelay n
    rw [attemptStart, Nat.cast_succ, add_mul, one_mul]
    linarith

/-- The pauses add up to any timeout, so some attempt is the last one. -/
theorem exists_last (hgrowing : r.backoff.Growing) (hdelay : ∀ n, 0 ≤ (source n).delay) :
    ∃ n o, r.Last source now n o := by
  classical
  have hex : ∃ n o, r.Concludes source now n o := by
    refine ⟨⌈r.backoff.timeout / min r.backoff.initial r.backoff.limit⌉₊,
      exists_concludes (Or.inr ?_)⟩
    have hceil := Nat.le_ceil (r.backoff.timeout / min r.backoff.initial r.backoff.limit)
    rw [div_le_iff₀ hgrowing.min_pos] at hceil
    have hstart := add_mul_le_attemptStart now hgrowing hdelay
      ⌈r.backoff.timeout / min r.backoff.initial r.backoff.limit⌉₊
    have hback := hdelay ⌈r.backoff.timeout / min r.backoff.initial r.backoff.limit⌉₊
    rw [attemptEnd]
    linarith
  obtain ⟨o, ho⟩ := Nat.find_spec hex
  exact ⟨Nat.find hex, o, ho, fun j hj o' ho' => Nat.find_min hex hj ⟨o', ho'⟩⟩

/-- Each attempt begins when the pause after the one before it ends, and each pause is the initial
one, times the factor for each attempt but the first, up to the limit. Some attempt is the last
one: it succeeds, fails for good, or is the last that is allowed or comes back behind the timeout.
The run ends when it comes back, with its value, with the cause, or with the number of attempts
and its failure. Nothing is written and no pause is made after it. -/
theorem run_ends_with_last_attempt (r : Retry ℚ) (hgrowing : r.backoff.Growing)
    (source : Source ℚ α) (hdelay : ∀ n, 0 ≤ (source n).delay) (now : ℚ) :
    (∃ n o, r.Last source now n o) ∧
    ∀ n o, r.Last source now n o →
      (∀ fuel ≤ n, r.run source fuel now = none) ∧
      ∀ fuel > n, ∃ events, r.run source fuel now = some ⟨r.attemptEnd source now n, o, events⟩ ∧
        events.filter Event.isAction
          = r.actionsBefore source now n ++ [.call .write (r.attemptStart source now n)] := by
  refine ⟨exists_last hgrowing hdelay, fun n o hlast => ⟨?_, ?_⟩⟩ <;> intro fuel hfuel
  · obtain ⟨events, -, hrun⟩ := runFrom_add (n := fuel) hgrowing hdelay fun j hj =>
      hlast.goesOn j (lt_of_lt_of_le hj hfuel)
    rw [run, ← Nat.add_zero fuel, hrun]
    simp [runFrom]
  · obtain ⟨events, hactions, hrun⟩ := runFrom_add hgrowing hdelay hlast.goesOn
    obtain ⟨more, hmore, hend⟩ := runFrom_of_concludes hdelay hlast.concludes (fuel - n - 1)
    have hsplit : fuel = n + (fuel - n - 1 + 1) := by omega
    refine ⟨[.notice (.applying r.label)] ++ (events ++ more), ?_, ?_⟩
    · rw [run, hsplit, hrun, hend]
      simp [Ended.after]
    · simp [Event.isAction, hactions, hmore]

/-- Two attempts, the second one after a pause of one unit. -/
def twiceRetry : Retry ℚ := ⟨"web", ⟨10, 1, 1, 5, 2⟩⟩

lemma twiceRetry_growing : twiceRetry.backoff.Growing := by
  constructor <;> norm_num [twiceRetry]

/-- Every attempt is refused after one unit. -/
def refusingSource (_ : Nat) : Reply ℚ Unit := ⟨.error (.refused ⟨some 409, none⟩), 1, []⟩

lemma twiceRetry_last :
    twiceRetry.Last refusingSource 0 1 (.error (.exhausted 2 (.refused ⟨some 409, none⟩))) := by
  refine ⟨.exhausted rfl (by simp) (Or.inl ⟨by decide, rfl⟩), fun j hj o ho => ?_⟩
  obtain rfl : j = 0 := by omega
  rcases ho with ⟨⟨⟩⟩ | ⟨⟨⟩⟩ | ⟨-, -, ⟨-, hlast⟩ | htime⟩
  · cases hlast
  · norm_num [attemptEnd, attemptStart, twiceRetry, refusingSource] at htime

theorem twiceRetry_gives_up :
    twiceRetry.backoff.Growing ∧ (∀ n, 0 ≤ (refusingSource n).delay) ∧
      ∃ events, twiceRetry.run refusingSource 2 0
          = some ⟨3, .error (.exhausted 2 (.refused ⟨some 409, none⟩)), events⟩ ∧
        events.filter Event.isAction = [.call .write 0, .sleep 1 1, .call .write 2] := by
  have hdelay : ∀ n, 0 ≤ (refusingSource n).delay := fun _ => zero_le_one
  refine ⟨twiceRetry_growing, hdelay, ?_⟩
  obtain ⟨-, hends⟩ :=
    run_ends_with_last_attempt twiceRetry twiceRetry_growing refusingSource hdelay 0
  have hrest : twiceRetry.backoff.rest 0 = 1 := by norm_num [Backoff.rest, twiceRetry]
  have hend : twiceRetry.attemptEnd refusingSource 0 0 = 1 := by
    norm_num [attemptEnd, attemptStart, refusingSource]
  have hstart : twiceRetry.attemptStart refusingSource 0 1 = 2 := by
    norm_num [attemptStart, refusingSource, hrest]
  have hback : twiceRetry.attemptEnd refusingSource 0 1 = 3 := by
    rw [attemptEnd, hstart]
    norm_num [refusingSource]
  obtain ⟨events, hrun, hactions⟩ := (hends 1 _ twiceRetry_last).2 2 (by decide)
  refine ⟨events, hback ▸ hrun, ?_⟩
  have hbegin : twiceRetry.attemptStart refusingSource 0 0 = 0 := rfl
  simp [hactions, actionsBefore, List.range_succ, hbegin, hend, hrest, hstart]

end Retry

end Settle

import Settle.Proofs.Clock.Extended
import Settle.Proofs.Poll.Schedule
import Settle.Proofs.Retry.Attempts

/-!
# Attempts and waits come to an end

If no pause is shorter than some span above zero, then the pauses alone add up to any timeout. So
attempts to write end, and so do waits, however long the pauses are and whether or not they are
finite.
-/

namespace Settle

open Extended

/-! ### Attempts -/

/-- The pauses are above zero and do not shrink. -/
structure Backoff.Lasting (b : Backoff Extended) : Prop where
  initial_pos   : 0 < b.initial
  limit_pos     : 0 < b.limit
  one_le_factor : ofRat 1 ≤ b.factor

/-- Some span above zero is as short as all pauses. -/
lemma Backoff.Lasting.exists_le_span {b : Backoff Extended} (h : b.Lasting) :
    ∃ q : ℚ, 0 < q ∧ ∀ n, ofRat q ≤ b.span (n + 1) := by
  obtain ⟨q, hq, hinitial⟩ := exists_pos_ofRat_le h.initial_pos
  obtain ⟨r, hr, hlimit⟩ := exists_pos_ofRat_le h.limit_pos
  refine ⟨min q r, lt_min hq hr, fun n => ?_⟩
  let power : Extended := Extended.power b.factor n
  have hgrown : b.initial ≤ b.initial * power :=
    le_mul_of_one_le h.initial_pos (one_le_power h.one_le_factor n)
  have hspan : b.span (n + 1)
      = TimeScale.later 0 (TimeScale.earlier (b.initial * power) b.limit) := rfl
  have hmin : ∀ {s : ℚ} {t : Extended}, min q r ≤ s → ofRat s ≤ t → ofRat (min q r) ≤ t :=
    fun hle => Chronological.le_trans (ofRat_le_ofRat.mpr hle)
  rw [hspan]
  refine Chronological.le_trans (TimeScale.le_earlier ?_ ?_) (TimeScale.le_later _ _)
  · exact Chronological.le_trans (hmin (min_le_left q r) hinitial) hgrown
  · exact hmin (min_le_right q r) hlimit

namespace Retry

variable {α : Type} {r : Retry Extended} {source : Source Extended α}

/-- Attempts that have gone on for so many pauses end within as many more as add up to the
timeout. -/
lemma exists_runFrom {start timeout q : ℚ} (htimeout : r.backoff.timeout = ofRat timeout)
    (hq : 0 < q) (hspan : ∀ n, ofRat q ≤ r.backoff.span (n + 1)) {fuel made : Nat} {now : Extended}
    (hnow : ofRat (start + made * q) ≤ now) (hfuel : timeout ≤ (made + fuel : Nat) * q) :
    ∃ e, r.runFrom source (ofRat start) (fuel + 1) made now = some e := by
  induction fuel generalizing made now with
  | zero =>
    obtain ⟨_, -, ⟨o, -, hrun⟩ | ⟨-, hover, -⟩⟩ := r.runFrom_cases source (ofRat start) made now
    · exact ⟨_, hrun 0⟩
    · have hback := Chronological.le_trans hnow (TimeScale.le_pause now (source made).delay)
      have hlate := Chronological.le_trans (ofRat_le_ofRat.mpr hfuel) (le_sub_of_add_le hback)
      simp [Backoff.isOver, htimeout, hlate] at hover
  | succ fuel ih =>
    obtain ⟨more, -, ⟨o, -, hrun⟩ | ⟨-, -, hrun⟩⟩ :=
      r.runFrom_cases source (ofRat start) made now
    · exact ⟨_, hrun (fuel + 1)⟩
    · have hback := Chronological.le_trans hnow (TimeScale.le_pause now (source made).delay)
      have hpause : ofRat (start + (made + 1 : Nat) * q)
          ≤ TimeScale.pause (TimeScale.pause now (source made).delay)
              (r.backoff.span (made + 1)) := by
        have hnonneg := Chronological.le_trans (ofRat_le_ofRat.mpr (le_of_lt hq)) (hspan made)
        rw [pause_of_nonneg _ hnonneg, Nat.cast_succ, add_mul, one_mul, ← add_assoc, ofRat_add]
        exact add_mono hback (hspan made)
      obtain ⟨e, he⟩ := ih hpause (by rwa [Nat.succ_add_eq_add_succ])
      exact ⟨_, by rw [hrun, he, Option.map_some]⟩

/-- However the attempts come out, they end. -/
theorem exists_run (hlasting : r.backoff.Lasting) {timeout : ℚ}
    (htimeout : r.backoff.timeout = ofRat timeout) (source : Source Extended α) (start : ℚ) :
    ∃ fuel e, ∀ more ≥ fuel, r.run source more (ofRat start) = some e := by
  obtain ⟨q, hq, hspan⟩ := hlasting.exists_le_span
  have hfuel : timeout ≤ (0 + ⌈timeout / q⌉₊ : Nat) * q := by
    rw [Nat.zero_add, ← div_le_iff₀ hq]
    exact Nat.le_ceil _
  have hnow : ofRat (start + (0 : Nat) * q) ≤ ofRat start := by simp
  have hruns : ∃ e, r.runFrom source (ofRat start) (⌈timeout / q⌉₊ + 1) 0 (ofRat start) = some e :=
    exists_runFrom htimeout hq hspan hnow hfuel
  obtain ⟨e, he⟩ := hruns
  have hrun : r.run source (⌈timeout / q⌉₊ + 1) (ofRat start)
      = some (e.after [.notice (.applying r.label)]) := by rw [run, he, Option.map_some]
  exact ⟨_, _, fun more hmore => run_of_le hrun hmore⟩

end Retry

/-! ### Waits -/

namespace Poll

variable {p : Poll Extended} {source : Source Extended Value}

lemma steady_of_pos {start timeout : ℚ}
    (hdeadline : p.deadline = .starting (ofRat start) (ofRat timeout)) (hinterval : 0 < p.interval)
    (hdelay : ∀ n, 0 ≤ (source n).delay) : p.Steady source where
  delay n t := pause_of_nonneg t (hdelay n)
  rest t := hdeadline ▸ Deadline.pause_cases t hinterval

lemma add_mul_le_due {q r : ℚ} {now : Extended} (hnow : ofRat q ≤ now)
    (hinterval : ofRat r ≤ p.interval) (hdelay : ∀ n, 0 ≤ (source n).delay) (n : Nat) :
    ofRat (q + n * r) ≤ p.due source now n := by
  induction n with
  | zero => simpa [due] using hnow
  | succ n ih =>
    have hback : ofRat (q + n * r + 0) ≤ p.due source now n + (source n).delay :=
      add_mono ih (hdelay n)
    rw [add_zero] at hback
    rw [due, Nat.cast_succ, add_mul, one_mul, ← add_assoc, ofRat_add]
    exact add_mono hback hinterval

/-- Reads that are due again and again are due behind the deadline at last. -/
lemma exists_late {start timeout : ℚ}
    (hdeadline : p.deadline = .starting (ofRat start) (ofRat timeout)) (hinterval : 0 < p.interval)
    (hdelay : ∀ n, 0 ≤ (source n).delay) (now : Extended) :
    ∃ n, p.deadline.expired (p.due source now n) = true := by
  obtain ⟨q, hq⟩ := exists_ofRat_le now
  obtain ⟨r, hr, hle⟩ := exists_pos_ofRat_le hinterval
  refine ⟨⌈(start + timeout - q) / r⌉₊, ?_⟩
  have hceil := Nat.le_ceil ((start + timeout - q) / r)
  rw [div_le_iff₀ hr] at hceil
  rw [hdeadline, Deadline.expired_starting_iff]
  refine Chronological.le_trans (ofRat_le_ofRat.mpr ?_) (add_mul_le_due hq hle hdelay _)
  linarith

end Poll

end Settle

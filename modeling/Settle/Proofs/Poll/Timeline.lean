import Mathlib.Algebra.Order.Floor.Semiring
import Settle.Proofs.Clock.Exact
import Settle.Proofs.Poll.Course

/-!
# When reads take place

Over exact times the reads of a wait have their times from the start, the interval and the delays
alone: each begins an interval after the end of the one before it. A read takes place if it
begins before the deadline and no earlier read has decided the wait. The state at each point of
the course is determined by the number of reads until then (`Standing`), and this determines when
and how the wait ends.
-/

namespace Settle

namespace Poll

variable (p : Poll ℚ) (source : Source ℚ Value) (now : ℚ)

/-- When a read begins, counted from zero, if the wait goes on until then. -/
def readStart : Nat → ℚ
  | 0     => now
  | n + 1 => readStart n + (source n).delay + p.interval

/-- When a read comes back. -/
def readEnd (n : Nat) : ℚ := p.readStart source now n + (source n).delay

/-- When the last of so many reads has come back; the beginning of the wait if there are none. -/
def lastEnd : Nat → ℚ
  | 0     => now
  | n + 1 => p.readEnd source now n

/-- The first so many reads decide nothing. -/
def Undecided (n : Nat) : Prop := ∀ j < n, p.target.judge (source j).result = none

/-- A read begins before the deadline, and no earlier one decides the wait. -/
structure TakesPlace (n : Nat) : Prop where
  started   : (p.readStart source now n : WithTop ℚ) < p.deadline.expiry
  undecided : p.Undecided source n

/-- The pause between reads is positive, and reads do not come back before they begin. -/
structure Regular : Prop where
  interval_pos : 0 < p.interval
  delay_nonneg : ∀ n, 0 ≤ (source n).delay

variable {p source now}

lemma Undecided.mono {m n : Nat} (h : p.Undecided source n) (hmn : m ≤ n) :
    p.Undecided source m := fun j hj => h j (lt_of_lt_of_le hj hmn)

lemma Undecided.succ {n : Nat} (h : p.Undecided source n)
    (hn : p.target.judge (source n).result = none) : p.Undecided source (n + 1) := by
  intro j hj
  rcases Nat.lt_succ_iff_lt_or_eq.mp hj with hj | rfl
  · exact h j hj
  · exact hn

/-- A read that decides the wait is the last one. -/
lemma Undecided.le_of_decided {m n : Nat} {o : Except Failure Unit} (h : p.Undecided source m)
    (hn : p.target.judge (source n).result = some o) : m ≤ n := by
  by_contra hlt
  rw [h n (not_le.mp hlt)] at hn
  cases hn

/-- If no read that takes place decides the wait, reads go on until the deadline. -/
lemma undecided_of_started {m : Nat}
    (hnone : ∀ n, p.TakesPlace source now n → p.target.judge (source n).result = none)
    (hbefore : ∀ n < m, (p.readStart source now n : WithTop ℚ) < p.deadline.expiry) :
    p.Undecided source m := by
  induction m with
  | zero => simp [Undecided]
  | succ m ih =>
    have hm := ih fun n hn => hbefore n (Nat.lt_succ_of_lt hn)
    exact hm.succ (hnone m ⟨hbefore m (Nat.lt_succ_self m), hm⟩)

namespace Regular

variable (h : p.Regular source)
include h

lemma readStart_le_readEnd (n : Nat) : p.readStart source now n ≤ p.readEnd source now n :=
  le_add_of_nonneg_right (h.delay_nonneg n)

lemma readEnd_lt_readStart (n : Nat) :
    p.readEnd source now n < p.readStart source now (n + 1) :=
  lt_add_of_pos_right _ h.interval_pos

lemma readStart_strictMono : StrictMono (p.readStart source now) :=
  strictMono_nat_of_lt_succ fun n =>
    lt_of_le_of_lt (h.readStart_le_readEnd n) (h.readEnd_lt_readStart n)

lemma lastEnd_le_readStart (n : Nat) : p.lastEnd source now n ≤ p.readStart source now n := by
  cases n with
  | zero => exact le_refl _
  | succ n => exact le_of_lt (h.readEnd_lt_readStart n)

variable (now) in
lemma add_mul_interval_le (n : Nat) : now + n * p.interval ≤ p.readStart source now n := by
  induction n with
  | zero => simp [readStart]
  | succ n ih =>
    have hdelay := h.delay_nonneg n
    rw [readStart, Nat.cast_succ, add_mul, one_mul]
    linarith

/-- A read that takes place comes before any that would begin behind the deadline. -/
lemma lt_of_passed {m n : Nat} (hn : p.TakesPlace source now n)
    (hm : p.deadline.expiry ≤ p.readStart source now m) : n < m := by
  have hlt := lt_of_lt_of_le hn.started hm
  exact h.readStart_strictMono.lt_iff_lt.mp (by exact_mod_cast hlt)

/-- Reads that begin before the deadline are as many as intervals fit until then. -/
lemma lt_ceil_of_readStart_lt {n : Nat} {e : ℚ} (hn : p.readStart source now n < e) :
    n < ⌈(e - now) / p.interval⌉₊ := by
  rw [Nat.lt_ceil, lt_div_iff₀ h.interval_pos]
  have := h.add_mul_interval_le now n
  linarith

end Regular

/-! ### The state at each point -/

variable (p source now)

/-- How a wait stands after a number of steps and of reads. Until the wait has ended, the steps
alternate: one begins a read, the next one judges it. -/
inductive Standing : Nat → Nat → State ℚ → Prop where
  | ready {n : Nat} {t : ℚ} (undecided : p.Undecided source n)
      (time : (t : WithTop ℚ)
        = min ↑(p.readStart source now n) (max p.deadline.expiry (p.lastEnd source now n))) :
      Standing (2 * n) n (.ready t)
  | reading {n : Nat} (takesPlace : p.TakesPlace source now n) :
      Standing (2 * n + 1) (n + 1) (.reading (p.readEnd source now n) (source n).result)
  | decided {k n : Nat} {o : Except Failure Unit} (takesPlace : p.TakesPlace source now n)
      (judged : p.target.judge (source n).result = some o) :
      Standing k (n + 1) (.finished (p.readEnd source now n) o)
  | expired {k n : Nat} {t : ℚ} (undecided : p.Undecided source n)
      (passed : p.deadline.expiry ≤ p.readStart source now n)
      (time : (t : WithTop ℚ) = max p.deadline.expiry (p.lastEnd source now n)) :
      Standing k n (.finished t (.error (.expired (p.target.reason p.name))))

variable {p source now}

/-- A read that begins is the next one, at its time. -/
lemma Standing.takesPlace {k n : Nat} {t : ℚ} (hs : p.Standing source now k n (.ready t))
    (hexp : p.deadline.expired t = false) :
    t = p.readStart source now n ∧ p.TakesPlace source now n := by
  cases hs with
  | ready undecided time =>
    have hbefore := p.deadline.not_expired_iff.mp hexp
    have hstart := Deadline.eq_start_of_pause time hbefore
    exact ⟨hstart, hstart ▸ hbefore, undecided⟩

lemma Standing.next (h : p.Regular source) {k n : Nat} {s : State ℚ}
    (hs : p.Standing source now k n s) :
    p.Standing source now (k + 1) (count n (p.step (source n) s).1) (p.step (source n) s).1 := by
  cases hs with
  | @ready n t undecided time =>
    cases hexp : p.deadline.expired t with
    | true =>
      have hexpired := p.deadline.expired_iff.mp hexp
      have hpassed : p.deadline.expiry ≤ p.readStart source now n :=
        hexpired.trans (by exact_mod_cast Deadline.pause_le_start time)
      have htime := Deadline.eq_max_of_pause time (h.lastEnd_le_readStart n) hexpired
      simpa [step, hexp, count] using Standing.expired (k := 2 * n + 1) undecided hpassed htime
    | false =>
      obtain ⟨rfl, htakes⟩ := (Standing.ready undecided time).takesPlace hexp
      simpa [step, hexp, count, TimeScale.pause_of_nonneg _ (h.delay_nonneg n), readEnd]
        using Standing.reading htakes
  | @reading n takesPlace =>
    cases hj : p.target.judge (source n).result with
    | some o =>
      simpa [step, hj, count] using Standing.decided (k := 2 * n + 2) takesPlace hj
    | none =>
      have hready : p.Standing source now (2 * (n + 1)) (n + 1) (.ready _) :=
        .ready (takesPlace.undecided.succ hj)
          (p.deadline.coe_pause (p.readEnd source now n) (le_of_lt h.interval_pos))
      simpa [step, hj, count, Nat.mul_succ] using hready
  | decided takesPlace judged => exact .decided takesPlace judged
  | expired undecided passed time => exact .expired undecided passed time

variable (p source now)

/-- What holds of each point of a course: the reads have begun at their times, and the state is
the one that they determine. -/
structure OnTime (k : Nat) (c : Course ℚ) : Prop where
  times      : c.events.filterMap (Event.timeOf? .read)
    = (List.range c.reads).map (p.readStart source now)
  takesPlace : ∀ n < c.reads, p.TakesPlace source now n
  standing   : p.Standing source now k c.reads c.state

variable {p source now}

lemma OnTime.next (h : p.Regular source) {k : Nat} {c : Course ℚ}
    (hc : p.OnTime source now k c) : p.OnTime source now (k + 1) (c.next p source) := by
  have hstanding := hc.standing.next h
  rcases p.step_cases (source c.reads) c.state with ⟨t, hs, hexp, hstep⟩ | ⟨-, hcount, htimes⟩
  · obtain ⟨hstart, htakes⟩ := (hs ▸ hc.standing).takesPlace hexp
    refine ⟨?_, ?_, hstanding⟩
    · simp [Course.next, hstep, count, List.range_succ, hc.times, Reply.times_events, hstart]
    · intro n hn
      simp only [Course.next, hstep, count, Nat.lt_succ_iff_lt_or_eq] at hn
      rcases hn with hn | rfl
      · exact hc.takesPlace n hn
      · exact htakes
  · refine ⟨?_, ?_, hstanding⟩
    · simp [Course.next, hcount, htimes, hc.times]
    · intro n hn
      exact hc.takesPlace n (by simpa [Course.next, hcount] using hn)

variable (now) in
theorem onTime (h : p.Regular source) (k : Nat) :
    p.OnTime source now k (p.course source now k) := by
  induction k with
  | zero =>
    refine ⟨by simp, by simp, ?_⟩
    exact Standing.ready (n := 0) (by simp [Undecided]) (by simp [readStart, lastEnd])
  | succ k ih =>
    rw [course_succ]
    exact ih.next h

/-! ### Which reads take place, and how the wait ends -/

section Ends

variable (h : p.Regular source) {k m n : Nat} {s : State ℚ}
include h

lemma Standing.lt_of_takesPlace (hs : p.Standing source now k m s) (hk : k = 2 * n + 1)
    (hn : p.TakesPlace source now n) : n < m := by
  cases hs with
  | ready | reading => omega
  | decided takesPlace judged => exact Nat.lt_succ_of_le (hn.undecided.le_of_decided judged)
  | expired undecided passed time => exact h.lt_of_passed hn passed

lemma Standing.eq_of_decided (hs : p.Standing source now k m s) (hk : k = 2 * n + 2)
    {o : Except Failure Unit} (hn : p.TakesPlace source now n)
    (ho : p.target.judge (source n).result = some o) :
    s = .finished (p.readEnd source now n) o := by
  cases hs with
  | @ready m t undecided time =>
    have := undecided.le_of_decided ho
    omega
  | reading => omega
  | @decided k m o' takesPlace judged =>
    have hmn : m = n :=
      le_antisymm (takesPlace.undecided.le_of_decided ho) (hn.undecided.le_of_decided judged)
    subst hmn
    rw [Option.some.inj (judged.symm.trans ho)]
  | expired undecided passed time =>
    exact absurd (undecided.le_of_decided ho) (not_le.mpr (h.lt_of_passed hn passed))

lemma Standing.eq_of_passed {r : Nat} (hs : p.Standing source now k r s) (hk : k = 2 * m + 2)
    (hr : ∀ n < r, p.TakesPlace source now n) (hm : ∀ n < m, p.TakesPlace source now n)
    (hundecided : p.Undecided source m)
    (hpassed : p.deadline.expiry ≤ p.readStart source now m) :
    ∃ t : ℚ, (t : WithTop ℚ) = max p.deadline.expiry (p.lastEnd source now m) ∧
      s = .finished t (.error (.expired (p.target.reason p.name))) := by
  have hrm : r ≤ m := by
    by_contra hlt
    exact lt_irrefl m (h.lt_of_passed (hr m (not_le.mp hlt)) hpassed)
  cases hs with
  | ready | reading => omega
  | decided takesPlace judged =>
    have := hundecided.le_of_decided judged
    omega
  | @expired k r t undecided passed time =>
    have hmr : m ≤ r := by
      by_contra hlt
      exact lt_irrefl r (h.lt_of_passed (hm r (not_le.mp hlt)) passed)
    rw [le_antisymm hrm hmr] at time
    exact ⟨t, time, rfl⟩

variable (now) in
/-- With a deadline, some read would be the first to begin behind it. -/
lemma Regular.exists_passed {e : ℚ} (he : p.deadline.expiry = e) :
    ∃ m, (∀ n < m, (p.readStart source now n : WithTop ℚ) < p.deadline.expiry) ∧
      p.deadline.expiry ≤ p.readStart source now m := by
  have hex : ∃ n, e ≤ p.readStart source now n :=
    ⟨⌈(e - now) / p.interval⌉₊, not_lt.mp fun hlt =>
      lt_irrefl _ (h.lt_ceil_of_readStart_lt hlt)⟩
  refine ⟨Nat.find hex, fun n hn => ?_, ?_⟩
  · rw [he, WithTop.coe_lt_coe]
    exact not_le.mp (Nat.find_min hex hn)
  · rw [he, WithTop.coe_le_coe]
    exact Nat.find_spec hex

/-- A read takes place exactly when it is made sooner or later. -/
theorem takesPlace_iff : p.TakesPlace source now n ↔ ∃ k, n < (p.course source now k).reads :=
  ⟨fun hn => ⟨2 * n + 1, (onTime now h (2 * n + 1)).standing.lt_of_takesPlace h rfl hn⟩,
    fun ⟨k, hk⟩ => (onTime now h k).takesPlace n hk⟩

/-- A wait ends with the read that decides it, or else at the deadline or behind it with the last
read. -/
theorem endsAt_iff {t : ℚ} {o : Except Failure Unit} :
    p.EndsAt source now t o ↔
      (∃ n, p.TakesPlace source now n ∧ p.target.judge (source n).result = some o ∧
        t = p.readEnd source now n) ∨
      (∃ m, (∀ n < m, p.TakesPlace source now n) ∧ p.Undecided source m ∧
        p.deadline.expiry ≤ p.readStart source now m ∧
        (t : WithTop ℚ) = max p.deadline.expiry (p.lastEnd source now m) ∧
        o = .error (.expired (p.target.reason p.name))) := by
  rw [endsAt_iff_course]
  constructor
  · rintro ⟨k, hk⟩
    obtain ⟨-, htakes, hs⟩ := onTime now h k
    rw [hk] at hs
    generalize (p.course source now k).reads = m at hs htakes
    cases hs with
    | @decided _ n _ takesPlace judged => exact Or.inl ⟨n, takesPlace, judged, rfl⟩
    | expired undecided passed time =>
      exact Or.inr ⟨m, htakes, undecided, passed, time, rfl⟩
  · rintro (⟨n, hn, ho, rfl⟩ | ⟨m, htakes, hundecided, hpassed, ht, rfl⟩)
    · exact ⟨2 * n + 2, (onTime now h (2 * n + 2)).standing.eq_of_decided h rfl hn ho⟩
    · have htime := onTime now h (2 * m + 2)
      obtain ⟨t', ht', hs⟩ := htime.standing.eq_of_passed h rfl htime.takesPlace htakes
        hundecided hpassed
      rw [← ht, WithTop.coe_inj] at ht'
      exact ⟨2 * m + 2, ht' ▸ hs⟩

/-- Reads that decide nothing go on until the deadline, and the wait ends there or behind it with
the last one. -/
lemma exists_endsAt_expired
    (hnone : ∀ n, p.TakesPlace source now n → p.target.judge (source n).result = none) {e : ℚ}
    (he : p.deadline.expiry = e) :
    ∃ m, (∀ n, p.TakesPlace source now n ↔ n < m) ∧
      p.EndsAt source now (max e (p.lastEnd source now m))
        (.error (.expired (p.target.reason p.name))) := by
  obtain ⟨m, hbefore, hpassed⟩ := h.exists_passed now he
  have hm := undecided_of_started hnone hbefore
  have htakes : ∀ n, p.TakesPlace source now n ↔ n < m := fun n =>
    ⟨fun hn => h.lt_of_passed hn hpassed, fun hn => ⟨hbefore n hn, hm.mono (le_of_lt hn)⟩⟩
  refine ⟨m, htakes, (endsAt_iff h).mpr (Or.inr ⟨m, ?_⟩)⟩
  exact ⟨fun n => (htakes n).mpr, hm, hpassed, by simp [he], rfl⟩

/-- Without a deadline, a wait does not end if its reads decide nothing. -/
lemma not_endsAt_of_undecided
    (hnone : ∀ n, p.TakesPlace source now n → p.target.judge (source n).result = none)
    (htop : p.deadline.expiry = ⊤) (t : ℚ) (o : Except Failure Unit) :
    ¬ p.EndsAt source now t o := by
  rw [endsAt_iff h]
  rintro (⟨n, hn, ho, -⟩ | ⟨m, -, -, hpassed, -⟩)
  · rw [hnone n hn] at ho
    cases ho
  · rw [htop, top_le_iff] at hpassed
    exact WithTop.coe_ne_top hpassed

/-- A wait that begins at the deadline or behind it ends at once. -/
lemma endsAt_of_expiry_le (hle : p.deadline.expiry ≤ now) :
    (∀ n, ¬ p.TakesPlace source now n) ∧
      p.EndsAt source now now (.error (.expired (p.target.reason p.name))) := by
  refine ⟨fun n hn => Nat.not_lt_zero n (h.lt_of_passed hn (m := 0) hle), ?_⟩
  refine (endsAt_iff h).mpr (Or.inr ⟨0, by simp, by simp [Undecided], hle, ?_, rfl⟩)
  exact (max_eq_right hle).symm

end Ends

end Poll

end Settle

import Settle.Proofs.Clock.Chronological
import Settle.Proofs.Poll.Course

/-!
# The schedule of a wait

The reads of a wait are due one after another, each a pause behind the end of the one before it. A
read is made if it is due before the deadline and no earlier one has decided the wait. If some read
would be due behind the deadline, the wait comes to an end: with the read that decides it, or at a
time at which the deadline has passed.
-/

namespace Settle

/-- A deadline that has passed does not come back. -/
lemma Deadline.expired_of_le {τ : Type} [TimeScale τ] [Chronological τ] {d : Deadline τ} {s t : τ}
    (hs : d.expired s = true) (hle : s ≤ t) : d.expired t = true := by
  obtain ⟨timeout?, _ | e⟩ := d
  · cases hs
  · simp only [expired, Option.any_some, decide_eq_true_eq] at hs ⊢
    exact Chronological.le_trans hs hle

namespace Poll

variable {τ : Type} [TimeScale τ] (p : Poll τ) (source : Source τ Value) (now : τ)

/-- When a read is due, counted from zero, if the wait goes on until then. -/
def due : Nat → τ
  | 0     => now
  | n + 1 => due n + (source n).delay + p.interval

/-- No read before this one decides the wait. -/
def Open (n : Nat) : Prop := ∀ j < n, p.target.judge (source j).result = none

/-- A read is due before the deadline, and no read before it decides the wait. -/
structure Made (n : Nat) : Prop where
  inTime : p.deadline.expired (p.due source now n) = false
  isOpen : p.Open source n

/-- Reads take their time, and pauses go by unless they lead behind the deadline. -/
structure Steady : Prop where
  delay : ∀ n t, TimeScale.pause t (source n).delay = t + (source n).delay
  rest  : ∀ t, p.deadline.expired (t + p.interval) = false ∧
      p.deadline.pause t p.interval = t + p.interval ∨
    p.deadline.expired (t + p.interval) = true ∧
      p.deadline.expired (p.deadline.pause t p.interval) = true

/-- How a wait stands after a number of steps and of reads. Until the wait has ended, one step
begins a read and the next one judges it. -/
inductive Stage : Nat → Nat → State τ → Prop where
  | ready {n : Nat} {t : τ} (isOpen : p.Open source n)
      (time : p.deadline.expired (p.due source now n) = false ∧ t = p.due source now n ∨
        p.deadline.expired (p.due source now n) = true ∧ p.deadline.expired t = true) :
      Stage (2 * n) n (.ready t)
  | reading {n : Nat} (made : p.Made source now n) :
      Stage (2 * n + 1) (n + 1)
        (.reading (p.due source now n + (source n).delay) (source n).result)
  | decided {k n : Nat} {o : Except Failure Unit} (made : p.Made source now n)
      (judged : p.target.judge (source n).result = some o) :
      Stage k (n + 1) (.finished (p.due source now n + (source n).delay) o)
  | expired {k n : Nat} {t : τ} (isOpen : p.Open source n)
      (late : p.deadline.expired (p.due source now n) = true)
      (passed : p.deadline.expired t = true) :
      Stage k n (.finished t (.error (.expired (p.target.reason p.name))))

/-- What holds of each point of a course: the reads have begun when they were due, and the state is
the one that they determine. -/
structure OnSchedule (k : Nat) (c : Course τ) : Prop where
  times : c.events.filterMap (Event.timeOf? .read)
    = (List.range c.reads).map (p.due source now)
  made  : ∀ n < c.reads, p.Made source now n
  stage : p.Stage source now k c.reads c.state

variable {p source now}

omit [TimeScale τ] in
lemma Open.succ {n : Nat} (h : p.Open source n)
    (hn : p.target.judge (source n).result = none) : p.Open source (n + 1) := by
  intro j hj
  rcases Nat.lt_succ_iff_lt_or_eq.mp hj with hj | rfl
  · exact h j hj
  · exact hn

/-- A read that decides the wait is the last one. -/
lemma Made.le_of_decided {m n : Nat} {o : Except Failure Unit} (h : p.Made source now m)
    (hn : p.target.judge (source n).result = some o) : m ≤ n := by
  by_contra hlt
  rw [h.isOpen n (not_le.mp hlt)] at hn
  cases hn

/-! ### One step -/

/-- A read that begins is the next one that is due. -/
lemma Stage.made {k n : Nat} {t : τ} (hs : p.Stage source now k n (.ready t))
    (hexp : p.deadline.expired t = false) : t = p.due source now n ∧ p.Made source now n := by
  cases hs with
  | ready isOpen time =>
    obtain ⟨inTime, rfl⟩ | ⟨-, passed⟩ := time
    · exact ⟨rfl, inTime, isOpen⟩
    · rw [hexp] at passed
      cases passed

lemma Stage.next (h : p.Steady source) {k n : Nat} {s : State τ}
    (hs : p.Stage source now k n s) :
    p.Stage source now (k + 1) (count n (p.step (source n) s).1) (p.step (source n) s).1 := by
  cases hs with
  | @ready n t isOpen time =>
    obtain ⟨inTime, rfl⟩ | ⟨late, passed⟩ := time
    · simpa [step, inTime, count, h.delay] using Stage.reading ⟨inTime, isOpen⟩
    · simpa [step, passed, count] using Stage.expired (k := 2 * n + 1) isOpen late passed
  | @reading n made =>
    cases hj : p.target.judge (source n).result with
    | none =>
      simp only [step, hj, count]
      exact Stage.ready (n := n + 1) (made.isOpen.succ hj) (h.rest _)
    | some o =>
      simp only [step, hj, count]
      exact .decided made hj
  | decided made judged => exact .decided made judged
  | expired isOpen late passed => exact .expired isOpen late passed

lemma OnSchedule.next (h : p.Steady source) {k : Nat} {c : Course τ}
    (hc : p.OnSchedule source now k c) : p.OnSchedule source now (k + 1) (c.next p source) := by
  have hstage := hc.stage.next h
  rcases p.step_cases (source c.reads) c.state with ⟨t, hs, hexp, hstep⟩ | ⟨-, hcount, htimes⟩
  · obtain ⟨hdue, hmade⟩ := (hs ▸ hc.stage).made hexp
    refine ⟨?_, ?_, hstage⟩
    · simp [Course.next, hstep, count, List.range_succ, hc.times, Reply.times_events, hdue]
    · intro n hn
      simp only [Course.next, hstep, count, Nat.lt_succ_iff_lt_or_eq] at hn
      rcases hn with hn | rfl
      · exact hc.made n hn
      · exact hmade
  · refine ⟨?_, ?_, hstage⟩
    · simp [Course.next, hcount, htimes, hc.times]
    · intro n hn
      exact hc.made n (by simpa [Course.next, hcount] using hn)

variable (now) in
theorem onSchedule (h : p.Steady source) (k : Nat) :
    p.OnSchedule source now k (p.course source now k) := by
  induction k with
  | zero =>
    refine ⟨by simp, by simp, ?_⟩
    exact Stage.ready (n := 0) (by simp [Open]) (by
      cases hexp : p.deadline.expired now <;> simp [due, hexp])
  | succ k ih =>
    rw [course_succ]
    exact ih.next h

/-! ### The end -/

lemma Stage.ended {k n : Nat} {t : τ} {o : Except Failure Unit}
    (hs : p.Stage source now k n (.finished t o)) :
    (∃ m, n = m + 1 ∧ p.target.judge (source m).result = some o ∧
        t = p.due source now m + (source m).delay) ∨
      p.Open source n ∧ o = .error (.expired (p.target.reason p.name)) ∧
        p.deadline.expired t = true := by
  cases hs with
  | @decided _ m _ made judged => exact Or.inl ⟨m, rfl, judged, rfl⟩
  | expired isOpen late passed => exact Or.inr ⟨isOpen, rfl, passed⟩

section Ends

variable [Chronological τ] (h : p.Steady source)
include h

/-- Behind a read that is due behind the deadline, no read is due before it. -/
lemma Steady.late_of_le {m n : Nat} (hm : p.deadline.expired (p.due source now m) = true)
    (hle : m ≤ n) : p.deadline.expired (p.due source now n) = true := by
  induction n, hle using Nat.le_induction with
  | base => exact hm
  | succ n _ ih =>
    have hback : p.deadline.expired (p.due source now n + (source n).delay) = true := by
      rw [← h.delay]
      exact Deadline.expired_of_le ih (TimeScale.le_pause _ _)
    rcases h.rest (p.due source now n + (source n).delay) with ⟨-, hpause⟩ | ⟨late, -⟩
    · rw [due, ← hpause]
      exact Deadline.expired_of_le hback (TimeScale.le_pause _ _)
    · exact late

lemma Steady.lt_of_late {m n : Nat} (hn : p.Made source now n)
    (hm : p.deadline.expired (p.due source now m) = true) : n < m := by
  by_contra hle
  have hlate := h.late_of_le hm (not_lt.mp hle)
  rw [hn.inTime] at hlate
  cases hlate

/-- When a read would be due behind the deadline, the wait has ended. -/
lemma Steady.finished_of_late {k m n : Nat} {s : State τ} (hs : p.Stage source now k n s)
    (hk : k = 2 * m + 1) (hm : p.deadline.expired (p.due source now m) = true) :
    ∃ t o, s = .finished t o := by
  cases hs with
  | ready => omega
  | @reading n made =>
    obtain rfl : n = m := by omega
    exact absurd (h.lt_of_late made hm) (lt_irrefl n)
  | decided | expired => exact ⟨_, _, rfl⟩

/-- The reads until the end are those that are made. -/
lemma Steady.lt_of_finished {k n j : Nat} {t : τ} {o : Except Failure Unit}
    (hs : p.Stage source now k n (.finished t o)) (hj : p.Made source now j) : j < n := by
  cases hs with
  | decided made judged => exact Nat.lt_succ_of_le (hj.le_of_decided judged)
  | expired isOpen late passed => exact h.lt_of_late hj late

/-- A wait of which some read would be due behind the deadline ends with a read that decides it, or
when the deadline has passed. All reads up to the end are made when they are due. -/
theorem Steady.exists_end {late : Nat}
    (hlate : p.deadline.expired (p.due source now late) = true) :
    ∃ n e, (∀ fuel > 2 * late, p.run source fuel now = some e) ∧
      e.times .read = (List.range n).map (p.due source now) ∧
      (∀ j, j < n ↔ p.Made source now j) ∧
      ((∃ m, n = m + 1 ∧ p.target.judge (source m).result = some e.outcome ∧
          e.time = p.due source now m + (source m).delay) ∨
        p.Open source n ∧ e.outcome = .error (.expired (p.target.reason p.name)) ∧
          p.deadline.expired e.time = true) := by
  obtain ⟨htimes, hmade, hstage⟩ := onSchedule now h (2 * late + 1)
  obtain ⟨t, o, hfinished⟩ := h.finished_of_late hstage rfl hlate
  have hrun : ∀ fuel > 2 * late, p.run source fuel now
      = some ⟨t, o, .notice p.opening :: (p.course source now (2 * late + 1)).events⟩ := by
    intro fuel hfuel
    rw [run_eq_some_iff, course_of_le_of_finished p source hfinished hfuel]
    exact ⟨hfinished, rfl⟩
  rw [hfinished] at hstage
  exact ⟨_, _, hrun, htimes, fun j => ⟨hmade j, h.lt_of_finished hstage⟩, hstage.ended⟩

end Ends

end Poll

end Settle

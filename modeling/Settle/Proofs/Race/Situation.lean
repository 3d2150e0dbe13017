import Settle.Proofs.Race.Timeline

/-!
# Where a race stands

In every order in which no side gets ahead of the other in time, the guard stands where the times
of the checks say (`Situation`), and the wait where it would stand alone. Each step keeps this
(`Situated`), so a race that ends does so as the times say.
-/

namespace Settle

namespace Race

variable {r : Race ℚ} {checks : Source ℚ Value} {now : ℚ}

/-! ### The guard -/

/-- What a state of the wait says about its end. -/
structure Underway (r : Race ℚ) (now : ℚ) (T : WithTop ℚ) (w : Except Failure Unit)
    (wait : Poll.State ℚ) : Prop where
  time_le  : (wait.time : WithTop ℚ) ≤ T
  finished : ∀ t o, wait = .finished t o → T = t ∧ w = o
  begun    : wait.outcome? = none → (now : WithTop ℚ) < r.poll.deadline.expiry

variable (r checks now)

/-- Where the guard stands after so many checks, and which of them have found a match. It is not
ahead of the wait, except for a pause or a check that had to end later. -/
inductive Situation (T : WithTop ℚ) (w : Except Failure Unit) (wait : Poll.State ℚ) :
    Nat → Guard ℚ → Prop where
  | pausing {k : Nat} {wake : ℚ} (unmatched : r.Unmatched checks k)
      (time : (wake : WithTop ℚ) = min ↑(r.checkStart checks now k)
        (max r.poll.deadline.expiry ↑(r.checksEnd checks now k)))
      (begun : r.checksEnd checks now k ≤ wait.time)
      (ended : wait.outcome? ≠ none → wait.time ≤ wake) :
      Situation T w wait k (.pausing wake)
  | checking {k : Nat} (begun : r.checkStart checks now k ≤ wait.time)
      (ended : wait.outcome? ≠ none → wait.time ≤ r.checksEnd checks now (k + 1)) :
      Situation T w wait (k + 1)
        (.checking (r.checksEnd checks now (k + 1)) (checks k).result)
  | finished {k : Nat} {t : ℚ} {o : Except Failure Unit}
      (settles : r.Settles checks now T w k t o) : Situation T w wait k (.finished t o)

variable {r checks now}

lemma Situation.settles {T : WithTop ℚ} {w : Except Failure Unit} {wait : Poll.State ℚ} {k : Nat}
    {t : ℚ} {o : Except Failure Unit} (h : r.Situation checks now T w wait k (.finished t o)) :
    r.Settles checks now T w k t o := by
  cases h with
  | finished settles => exact settles

/-- The wait goes on, and takes no time for its end. -/
lemma Situation.of_wait {T : WithTop ℚ} {w : Except Failure Unit} {wait wait' : Poll.State ℚ}
    {k : Nat} {guard : Guard ℚ} (h : r.Situation checks now T w wait k guard)
    (hle : wait.time ≤ wait'.time) (hguard : wait.time ≤ guard.time)
    (hended : wait'.outcome? ≠ none → wait'.time = wait.time) :
    r.Situation checks now T w wait' k guard := by
  cases h with
  | pausing unmatched time begun ended =>
    exact .pausing unmatched time (begun.trans hle) fun h => (hended h).trans_le hguard
  | checking begun ended =>
    exact .checking (begun.trans hle) fun h => (hended h).trans_le hguard
  | finished settles => exact .finished settles

section Move

variable {T : WithTop ℚ} {w : Except Failure Unit} {wait : Poll.State ℚ}
  (hwait : r.Underway now T w wait)
include hwait

lemma settles_of_leave {k : Nat} {wake t : ℚ} {o : Except Failure Unit}
    (hs : r.Situation checks now T w wait k (.pausing wake))
    (performs : ∀ j < k, r.Performs checks now T j) (ended : wait = .finished t o) :
    r.Settles checks now T w k t o := by
  obtain ⟨rfl, rfl⟩ := hwait.finished t o ended
  cases hs with
  | pausing unmatched time begun hended =>
    subst ended
    have hwake : t ≤ wake := hended (by simp [Poll.State.outcome?])
    refine .waited performs ?_ unmatched ?_ ?_
    · exact (min_le_left _ _).trans (by exact_mod_cast hwake.trans (Deadline.pause_le_start time))
    · exact (WithTop.coe_le_coe.mpr hwake).trans (time ▸ min_le_right _ _)
    · exact (max_eq_left (by exact_mod_cast begun)).symm

lemma settles_of_expire (h : r.Regular checks) {k : Nat} {wake : ℚ}
    (hs : r.Situation checks now T w wait k (.pausing wake))
    (performs : ∀ j < k, r.Performs checks now T j) (hpending : wait.outcome? = none)
    (hle : wake ≤ wait.time) (hexp : r.poll.deadline.expiry ≤ wake) :
    r.Settles checks now T w k wake (.error (.expired ("resource " ++ r.poll.name))) := by
  cases hs with
  | pausing unmatched time begun ended =>
    have htime := Deadline.eq_max_of_pause time (le_of_lt (h.checksEnd_lt_checkStart now k)) hexp
    have hstart : (wake : WithTop ℚ) ≤ r.checkStart checks now k := by
      exact_mod_cast Deadline.pause_le_start time
    have hT : (wake : WithTop ℚ) ≤ T := (WithTop.coe_le_coe.mpr hle).trans hwait.time_le
    exact .expired performs ((min_le_right _ _).trans (hexp.trans hstart)) unmatched
      (hwait.begun hpending) (htime ▸ hT) htime

lemma performs_of_begin {k : Nat} {wake : ℚ}
    (hs : r.Situation checks now T w wait k (.pausing wake))
    (hne : T ≠ r.checkStart checks now k) (hle : wake ≤ wait.time)
    (hexp : (wake : WithTop ℚ) < r.poll.deadline.expiry) :
    wake = r.checkStart checks now k ∧ r.Performs checks now T k := by
  cases hs with
  | pausing unmatched time begun ended =>
    obtain rfl := Deadline.eq_start_of_pause time hexp
    have hT : (r.checkStart checks now k : WithTop ℚ) ≤ T :=
      (WithTop.coe_le_coe.mpr hle).trans hwait.time_le
    exact ⟨rfl, lt_min (lt_of_le_of_ne hT hne.symm) hexp, unmatched⟩

lemma settles_of_follow (h : r.Regular checks) {k : Nat} {t : ℚ} {o : Except Failure Unit}
    (hended : wait.outcome? ≠ none → wait.time ≤ r.checksEnd checks now (k + 1))
    (performs : ∀ j < k + 1, r.Performs checks now T j)
    (hk : ∀ a, ¬ r.Matches (checks k) a) (ended : wait = .finished t o) :
    r.Settles checks now T w (k + 1) (r.checksEnd checks now (k + 1)) o := by
  obtain ⟨rfl, rfl⟩ := hwait.finished t o ended
  subst ended
  have hback : t ≤ r.checksEnd checks now (k + 1) := hended (by simp [Poll.State.outcome?])
  have hstart := h.checksEnd_lt_checkStart now (k + 1)
  refine .waited performs ?_ ((performs k (Nat.lt_succ_self k)).unmatched.concat hk) ?_ ?_
  · exact (min_le_left _ _).trans (by exact_mod_cast hback.trans (le_of_lt hstart))
  · exact le_max_of_le_right (by exact_mod_cast hback)
  · exact (max_eq_right (by exact_mod_cast hback)).symm

/-- What a move of the guard makes of where it stands. -/
lemma Situation.move (h : r.Regular checks)
    (hwritable : ∀ k v, (checks k).result = .ok v → v.Writable)
    (hne : ∀ k, T ≠ r.checkStart checks now k) {k : Nat} {guard guard' : Guard ℚ}
    {es : List (Event ℚ)} (hs : r.Situation checks now T w wait k guard)
    (hmove : r.Move (checks k) wait guard guard' es)
    (hmay : wait.outcome? ≠ none ∨ guard.time ≤ wait.time)
    (performs : ∀ j < k, r.Performs checks now T j) :
    r.Situation checks now T w wait (count k guard') guard' ∧
      (∀ j < count k guard', r.Performs checks now T j) ∧
      (List.range k).map (r.checkStart checks now) ++ es.filterMap (Event.timeOf? .check)
        = (List.range (count k guard')).map (r.checkStart checks now) ∧
      (guard'.outcome? = none → guard.time ≤ guard'.time) := by
  cases hmove with
  | leave ended =>
    exact ⟨.finished (settles_of_leave hwait hs performs ended), performs, by simp [count],
      by simp [Guard.outcome?]⟩
  | @expire wake pending expired =>
    have hle : wake ≤ wait.time := hmay.resolve_left (not_not.mpr pending)
    have hexp := r.poll.deadline.expired_iff.mp expired
    exact ⟨.finished (settles_of_expire hwait h hs performs pending hle hexp), performs,
      by simp [count], by simp [Guard.outcome?]⟩
  | @begin wake pending expired =>
    have hle : wake ≤ wait.time := hmay.resolve_left (not_not.mpr pending)
    have hexp := r.poll.deadline.not_expired_iff.mp expired
    obtain ⟨rfl, hperforms⟩ := performs_of_begin hwait hs (hne k) hle hexp
    have hback : TimeScale.pause (r.checkStart checks now k) (checks k).delay
        = r.checksEnd checks now (k + 1) := TimeScale.pause_of_nonneg _ (h.delay_nonneg k)
    rw [hback]
    refine ⟨.checking hle fun hended => absurd pending hended,
      forall_performs_succ performs hperforms, ?_, fun _ => h.checkStart_le_checksEnd k⟩
    rw [Reply.times_events, if_pos rfl, count, List.range_succ, List.map_append]
    rfl
  | fail found =>
    cases hs with
    | @checking k begun ended => exact absurd found (find_ne_error (hwritable k) _)
  | abort found =>
    cases hs with
    | @checking k begun ended =>
      have hsettles := Settles.aborted (w := w) (performs k (Nat.lt_succ_self k))
        (find_eq_some_iff.mp found)
      exact ⟨.finished hsettles, performs, by simp [count, Event.timeOf?], by simp [Guard.outcome?]⟩
  | follow found ended =>
    cases hs with
    | @checking k begun hended =>
      have hsettles := settles_of_follow hwait h hended performs (not_matches_of_find found) ended
      exact ⟨.finished hsettles, performs, by simp [count], by simp [Guard.outcome?]⟩
  | rest found pending =>
    cases hs with
    | @checking k begun ended =>
      have hle : r.checksEnd checks now (k + 1) ≤ wait.time :=
        hmay.resolve_left (not_not.mpr pending)
      have hinterval := le_of_lt h.interval_pos
      have hunmatched := (performs k (Nat.lt_succ_self k)).unmatched.concat
        (not_matches_of_find found)
      refine ⟨.pausing hunmatched (r.poll.deadline.coe_pause _ hinterval) hle
        fun hended => absurd pending hended, performs, by simp [Race.rest, count], fun _ => ?_⟩
      exact r.poll.deadline.le_pause ..

end Move

/-! ### Every point of every order -/

variable (r checks now)

/-- How many steps the guard has taken. -/
def Guard.steps (checks : Nat) : Guard ℚ → Nat
  | .checking .. => 2 * checks - 1
  | _            => 2 * checks

variable {r checks now} in
lemma Situation.steps {T : WithTop ℚ} {w : Except Failure Unit} {wait : Poll.State ℚ} {k : Nat}
    {guard guard' : Guard ℚ} {reply : Reply ℚ Value} {es : List (Event ℚ)}
    (hs : r.Situation checks now T w wait k guard) (hmove : r.Move reply wait guard guard' es)
    (hrunning : guard'.outcome? = none) :
    guard'.steps (count k guard') = guard.steps k + 1 := by
  cases hmove with
  | begin => rfl
  | rest =>
    cases hs with
    | checking => rfl
  | leave | expire | fail | abort | follow => cases hrunning

/-- What holds of each point of a race after `i` steps of the wait that follow its first one, and
after `n` steps of both. -/
structure Situated (reads : Source ℚ Value) (T : WithTop ℚ) (w : Except Failure Unit) (i n : Nat)
    (c : Course ℚ) : Prop where
  wait     : c.state.wait = (r.poll.course reads now (i + 1)).state
  counted  : c.state.reads = (r.poll.course reads now (i + 1)).reads
  pending  : (r.poll.course reads now i).state.outcome? = none
  guard    : r.Situation checks now T w c.state.wait c.state.checks c.state.guard
  performs : ∀ k < c.state.checks, r.Performs checks now T k
  times    : c.events.filterMap (Event.timeOf? .check)
    = (List.range c.state.checks).map (r.checkStart checks now)
  behind   : c.state.guard.outcome? = none →
    (r.poll.course reads now i).state.time ≤ c.state.guard.time
  steps    : c.state.guard.outcome? = none → n = i + c.state.guard.steps c.state.checks

variable {r checks now} {reads : Source ℚ Value} {T : WithTop ℚ} {w : Except Failure Unit}

lemma underway (hdelay : ∀ n, 0 ≤ (reads n).delay) (hT : r.poll.WaitsUntil reads now T w)
    (k : Nat) : r.Underway now T w (r.poll.course reads now (k + 1)).state :=
  ⟨Poll.time_le hdelay hT (k + 1), fun _ _ hk => hT.of_finished hk, Poll.lt_expiry⟩

lemma mayStep_guard_iff {s : State ℚ} :
    mayStep s .guard = true ↔ s.wait.outcome? ≠ none ∨ s.guard.time ≤ s.wait.time := by
  simp [mayStep, Option.isSome_iff_ne_none]

lemma mayStep_wait_iff {s : State ℚ} :
    mayStep s .wait = true ↔ s.wait.outcome? = none ∧ s.wait.time ≤ s.guard.time := by
  simp [mayStep]

section Steps

variable {i n : Nat} {c : Course ℚ} (hc : r.Situated checks now reads T w i n c)
  (hrunning : c.state.guard.outcome? = none)
include hc hrunning

lemma Situated.waitStep (hlive : c.state.cancelled = false) (hdelay : ∀ n, 0 ≤ (reads n).delay)
    (hmay : mayStep c.state .wait = true) :
    r.Situated checks now reads T w (i + 1) (n + 1)
      (c.next r (.separate reads checks) .wait) := by
  obtain ⟨hpending, hle⟩ := mayStep_wait_iff.mp hmay
  have hnext : (r.poll.course reads now (i + 2)).state
      = (r.poll.step (reads c.state.reads) c.state.wait).1 := by
    rw [Poll.course_succ, Poll.Course.next, ← hc.wait, ← hc.counted]
  rw [Course.next, step_wait hlive]
  constructor
  · exact hnext.symm
  · rw [Poll.course_succ, Poll.Course.next, ← hc.wait, ← hc.counted]
    rfl
  · exact hc.wait ▸ hpending
  · exact hc.guard.of_wait (Poll.time_le_step (hdelay _)) hle
      Poll.time_step_of_finished
  · exact hc.performs
  · rw [List.filterMap_append, hc.times]
    simp [Poll.step_times_of_ne]
  · exact fun _ => hc.wait ▸ hle
  · intro _
    rw [hc.steps hrunning]
    exact Nat.add_right_comm ..

lemma Situated.guardStep (h : r.Regular checks) (hdelay : ∀ n, 0 ≤ (reads n).delay)
    (hT : r.poll.WaitsUntil reads now T w)
    (hwritable : ∀ k v, (checks k).result = .ok v → v.Writable)
    (hne : ∀ k, T ≠ r.checkStart checks now k) (hmay : mayStep c.state .guard = true) :
    r.Situated checks now reads T w i (n + 1) (c.next r (.separate reads checks) .guard) := by
  have hmove := r.move (checks c.state.checks) c.state.wait hrunning
  have hwait := hc.wait ▸ underway hdelay hT i
  obtain ⟨hguard, hperforms, htimes, hle⟩ := hc.guard.move hwait h hwritable hne hmove
    (mayStep_guard_iff.mp hmay) hc.performs
  constructor
  · exact hc.wait
  · exact hc.counted
  · exact hc.pending
  · exact hguard
  · exact hperforms
  · rw [Course.next, List.filterMap_append, hc.times]
    exact htimes
  · exact fun hrunning' => (hc.behind hrunning).trans (hle hrunning')
  · intro hrunning'
    rw [hc.steps hrunning, Nat.add_assoc, ← hc.guard.steps hmove hrunning']
    rfl

end Steps

/-- In every order in which no side gets ahead of the other, the race stands where the times of its
reads and checks say. -/
theorem situated (h : r.Regular checks) (hdelay : ∀ n, 0 ≤ (reads n).delay)
    (hT : r.poll.WaitsUntil reads now T w)
    (hwritable : ∀ k v, (checks k).result = .ok v → v.Writable)
    (hne : ∀ k, T ≠ r.checkStart checks now k) {sides : List Side}
    (horder : r.InOrder (.separate reads checks) now sides) :
    ∃ i, r.Situated checks now reads T w i sides.length
      (r.course (.separate reads checks) now sides) := by
  induction horder with
  | nil =>
    have hpause : now ≤ r.poll.deadline.pause now r.interval :=
      r.poll.deadline.le_pause now r.interval
    have hunmatched : r.Unmatched checks 0 := fun _ hj => absurd hj (Nat.not_lt_zero _)
    have htime := r.poll.deadline.coe_pause now (le_of_lt h.interval_pos)
    have hguard :
        r.Situation checks now T w (r.poll.step (reads 0) (.ready now)).1 0 (r.rest now) :=
      .pausing hunmatched htime (Poll.time_le_step (hdelay 0))
        fun hended => (Poll.time_step_of_finished hended).trans_le hpause
    refine ⟨0, ?_⟩
    constructor
    · simp [start, step, Race.rest, Poll.course_succ, Poll.Course.next, Feed.separate]
    · simp [start, step, Race.rest, Poll.course_succ, Poll.Course.next, Feed.separate]
    · rfl
    · exact hguard
    · simp [start, step]
    · simp [start, step, Poll.step_times_of_ne]
    · exact fun _ => hpause
    · exact fun _ => rfl
  | @concat sides side horder may ih =>
    obtain ⟨i, hc⟩ := ih
    rw [course_concat, List.length_append, List.length_singleton]
    by_cases hrunning : (r.course (.separate reads checks) now sides).state.guard.outcome? = none
    · cases side with
      | wait => exact ⟨i + 1, hc.waitStep hrunning ((closed_course sides).live hrunning) hdelay
          (may hrunning)⟩
      | guard =>
        exact ⟨i, hc.guardStep hrunning h hdelay hT hwritable hne (may hrunning)⟩
    · rw [Course.next_of_ended (closed_course sides) hrunning]
      exact ⟨i, { hc with steps := fun hnone => absurd hnone hrunning }⟩

end Race

end Settle

import Settle.Proofs.Clock.Chronological
import Settle.Proofs.Poll.Course
import Settle.Proofs.Race.Course

/-!
# Calls between start and deadline

On every scale in order, at every point of a wait or a race, whether it comes to an end or not, all
calls that have been made are reads and checks that began neither before the start nor behind the
deadline.
-/

namespace Settle

variable {τ : Type} [TimeScale τ]

/-- All calls among events are reads and checks, none of them before a start or behind a
deadline. -/
def Timely (d : Deadline τ) (start : τ) (es : List (Event τ)) : Prop :=
  ∀ c, ∀ t ∈ es.filterMap (Event.timeOf? c), c ≠ .write ∧ start ≤ t ∧ d.expired t = false

namespace Timely

variable {d : Deadline τ} {start t : τ} {es fs : List (Event τ)}

lemma append (h : Timely d start es) (h' : Timely d start fs) : Timely d start (es ++ fs) := by
  intro c t ht
  rw [List.filterMap_append, List.mem_append] at ht
  rcases ht with ht | ht
  · exact h c t ht
  · exact h' c t ht

lemma of_no_call (h : ∀ c, es.filterMap (Event.timeOf? c) = []) : Timely d start es := by
  intro c t ht
  rw [h c] at ht
  cases ht

lemma events {α : Type} (reply : Reply τ α) {c : Call} (hc : c ≠ .write) (hstart : start ≤ t)
    (hexpired : d.expired t = false) : Timely d start (reply.events c t) := by
  intro c' t' ht'
  rw [Reply.times_events] at ht'
  split at ht'
  · next heq =>
    subst heq
    rw [List.mem_singleton.mp ht']
    exact ⟨hc, hstart, hexpired⟩
  · cases ht'

end Timely

/-! ### Behind the deadline -/

namespace Race

variable {r : Race τ} {feed : Feed τ} {start : τ}

/-- A race whose wait has ended ends with it as soon as no check is under way. -/
lemma runFrom_of_finished (fuel m n : Nat) (t wake : τ) (o : Except Failure Unit) :
    r.runFrom feed (fuel + 1) ⟨.finished t o, .pausing wake, m, n, false⟩ = some ⟨t, o, []⟩ := by
  have hturn : turn (⟨.finished t o, .pausing wake, m, n, false⟩ : State τ) = .guard := by
    simp [turn, mayStep, Poll.State.outcome?]
  simp only [runFrom, hturn, step, guardStep]
  cases fuel <;> rfl

/-- A race that begins behind the deadline ends at once, without any call. -/
lemma run_of_expired {fuel : Nat} (hfuel : 0 < fuel)
    (hexpired : r.poll.deadline.expired start = true) :
    r.run feed fuel start
      = some ⟨start, .error (.expired (r.poll.target.reason r.poll.name)),
          [.notice r.poll.opening]⟩ := by
  obtain ⟨k, rfl⟩ := Nat.exists_eq_succ_of_ne_zero hfuel.ne'
  have hstep : ∀ reply, r.poll.step reply (.ready start)
      = (.finished start (.error (.expired (r.poll.target.reason r.poll.name))), []) := by
    intro reply
    rw [Poll.step, if_pos hexpired]
  by_cases hrules : r.rules = []
  · rw [run, if_pos (by simp [hrules]), Poll.run]
    simp only [Poll.runFrom, hstep]
    cases k <;> rfl
  · have hstart : r.start feed start
        = (⟨.finished start (.error (.expired (r.poll.target.reason r.poll.name))), r.rest start,
            0, 0, false⟩, []) := by
      rw [Race.start, step_wait rfl]
      simp only [hstep, Poll.count]
    rw [run, if_neg (by simpa using hrules), hstart]
    simp only [rest, runFrom_of_finished]
    rfl

end Race

variable [Chronological τ]

lemma le_pause_of_le {start t : τ} (h : start ≤ t) (span : τ) : start ≤ TimeScale.pause t span :=
  Chronological.le_trans h (TimeScale.le_pause t span)

/-! ### Waits -/

namespace Poll

variable {p : Poll τ} {start : τ}

lemma timely_step (reply : Reply τ Value) {s : State τ} (h : start ≤ s.time) :
    start ≤ (p.step reply s).1.time ∧ Timely p.deadline start (p.step reply s).2 := by
  cases s with
  | ready t =>
    cases hexp : p.deadline.expired t with
    | true =>
      simp only [step, hexp, if_true]
      exact ⟨h, .of_no_call fun _ => rfl⟩
    | false =>
      simp only [step, hexp, Bool.false_eq_true, if_false]
      exact ⟨le_pause_of_le h _, .events reply (by decide) h hexp⟩
  | reading back result =>
    cases hjudge : p.target.judge result with
    | none =>
      simp only [step, hjudge]
      exact ⟨le_pause_of_le h _, .of_no_call fun _ => rfl⟩
    | some o =>
      simp only [step, hjudge]
      refine ⟨h, .of_no_call fun c => ?_⟩
      cases o <;> rfl
  | finished t o => exact ⟨h, .of_no_call fun _ => rfl⟩

lemma timely_course (p : Poll τ) (source : Source τ Value) (start : τ) (k : Nat) :
    start ≤ (p.course source start k).state.time ∧
      Timely p.deadline start (p.course source start k).events := by
  induction k with
  | zero => exact ⟨Chronological.le_refl start, .of_no_call fun _ => rfl⟩
  | succ k ih =>
    obtain ⟨htime, hevents⟩ := ih
    rw [course_succ]
    obtain ⟨htime', hevents'⟩ := timely_step (p := p)
      (source (p.course source start k).reads) htime
    exact ⟨htime', hevents.append hevents'⟩

end Poll

/-! ### Races -/

namespace Race

variable {r : Race τ} {feed : Feed τ} {start : τ}

/-- Neither side of a race stands before its start, and all calls are timely. -/
structure Punctual (r : Race τ) (start : τ) (c : Course τ) : Prop where
  wait   : start ≤ c.state.wait.time
  guard  : start ≤ c.state.guard.time
  timely : Timely r.poll.deadline start c.events

lemma timely_move {reply : Reply τ Value} {wait : Poll.State τ} {guard guard' : Guard τ}
    {es : List (Event τ)} (hwait : start ≤ wait.time) (hguard : start ≤ guard.time)
    (h : r.Move reply wait guard guard' es) :
    start ≤ guard'.time ∧ Timely r.poll.deadline start es := by
  cases h with
  | leave ended =>
    rw [ended] at hwait
    exact ⟨hwait, .of_no_call fun _ => rfl⟩
  | begin pending expired =>
    exact ⟨le_pause_of_le hguard _, .events reply (by decide) hguard expired⟩
  | rest => exact ⟨le_pause_of_le hguard _, .of_no_call fun _ => rfl⟩
  | expire | fail | abort | follow => exact ⟨hguard, .of_no_call fun _ => rfl⟩

lemma Punctual.next {c : Course τ} (h : r.Punctual start c) (hclosed : c.state.Closed)
    (side : Side) : r.Punctual start (c.next r feed side) := by
  by_cases hrunning : c.state.guard.outcome? = none
  swap
  · rwa [Course.next_of_ended hclosed hrunning]
  cases side with
  | wait =>
    obtain ⟨htime, hevents⟩ := Poll.timely_step (p := r.poll)
      (feed.read c.state.reads c.state.checks) h.wait
    rw [Course.next, step_wait (hclosed.live hrunning)]
    exact ⟨htime, h.guard, h.timely.append hevents⟩
  | guard =>
    obtain ⟨htime, hevents⟩ := timely_move h.wait h.guard
      (r.move (feed.check c.state.reads c.state.checks) c.state.wait hrunning)
    exact ⟨h.wait, htime, h.timely.append hevents⟩

lemma punctual_course (r : Race τ) (feed : Feed τ) (start : τ) (sides : List Side) :
    r.Punctual start (r.course feed start sides) := by
  induction sides using List.reverseRecOn with
  | nil =>
    have hbegin : r.Punctual start ⟨⟨.ready start, r.rest start, 0, 0, false⟩, []⟩ :=
      ⟨Chronological.le_refl start, TimeScale.le_pause start _, .of_no_call fun _ => rfl⟩
    exact hbegin.next rfl .wait
  | append_singleton sides side ih =>
    rw [course_concat]
    exact ih.next (closed_course sides) side

end Race

end Settle

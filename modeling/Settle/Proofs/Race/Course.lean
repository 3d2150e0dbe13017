import Mathlib.Data.List.Induction
import Mathlib.Logic.Function.Iterate
import Mathlib.Tactic.Lemma
import Settle.Wait.Race

/-!
# The course of a race

Where a race stands after its two sides have taken steps in some order, whatever the order is, and
what has happened until then. Orders in which no side gets ahead of the other in time are singled
out (`InOrder`). A run with enough fuel is the course in the order in which the wait goes first
whenever it may.
-/

namespace Settle

namespace Race

/-- A point in the course of a race. -/
structure Course (τ : Type) where
  state  : State τ
  events : List (Event τ)

section TimeScale

variable {τ : Type} [TimeScale τ] (r : Race τ) (feed : Feed τ) (now : τ)

/-! ### Steps of the guard -/

/-- What the guard can do that has not ended the race, given what a check brings that begins now
and where the wait stands. -/
inductive Move (reply : Reply τ Value) (wait : Poll.State τ) :
    Guard τ → Guard τ → List (Event τ) → Prop where
  /-- The wait has ended during a pause. -/
  | leave {wake t : τ} {o : Except Failure Unit} (ended : wait = .finished t o) :
      Move reply wait (.pausing wake) (.finished t o) []
  /-- The deadline has passed at the end of a pause. -/
  | expire {wake : τ} (pending : wait.outcome? = none)
      (expired : r.poll.deadline.expired wake = true) :
      Move reply wait (.pausing wake)
        (.finished wake (.error (.expired ("resource " ++ r.poll.name)))) []
  /-- A check begins at the end of a pause. -/
  | begin {wake : τ} (pending : wait.outcome? = none)
      (expired : r.poll.deadline.expired wake = false) :
      Move reply wait (.pausing wake)
        (.checking (TimeScale.pause wake reply.delay) reply.result) (reply.events .check wake)
  /-- A check cannot be made sense of. -/
  | fail {back : τ} {result : Except Failure Value} {e : Failure}
      (found : find r.poll.name r.rules result = .error e) :
      Move reply wait (.checking back result) (.finished back (.error e)) []
  /-- A check finds a match. -/
  | abort {back : τ} {result : Except Failure Value} {a : Abort}
      (found : find r.poll.name r.rules result = .ok (some a)) :
      Move reply wait (.checking back result) (.finished back (.error (.aborted a)))
        [.notice (.aborting r.poll.name a)]
  /-- The wait has ended during a check that finds nothing. -/
  | follow {back t : τ} {result : Except Failure Value} {o : Except Failure Unit}
      (found : find r.poll.name r.rules result = .ok none) (ended : wait = .finished t o) :
      Move reply wait (.checking back result) (.finished back o) []
  /-- A check finds nothing. -/
  | rest {back : τ} {result : Except Failure Value}
      (found : find r.poll.name r.rules result = .ok none) (pending : wait.outcome? = none) :
      Move reply wait (.checking back result) (r.rest back) []

variable {r} in
lemma move (reply : Reply τ Value) (wait : Poll.State τ) {guard : Guard τ}
    (hrunning : guard.outcome? = none) :
    r.Move reply wait guard (r.guardStep reply wait guard).1 (r.guardStep reply wait guard).2 := by
  cases guard with
  | finished t o => cases hrunning
  | pausing wake =>
    cases wait with
    | finished t o => exact .leave rfl
    | ready t | reading t result =>
      cases hexp : r.poll.deadline.expired wake with
      | true => simpa [guardStep, hexp] using Move.expire rfl hexp
      | false => simpa [guardStep, hexp] using Move.begin rfl hexp
  | checking back result =>
    cases hfind : find r.poll.name r.rules result with
    | error e => simpa [guardStep, hfind] using Move.fail hfind
    | ok found =>
      cases found with
      | some a => simpa [guardStep, hfind] using Move.abort hfind
      | none =>
        cases wait with
        | finished t o => simpa [guardStep, hfind] using Move.follow hfind rfl
        | ready t | reading t result => simpa [guardStep, hfind] using Move.rest hfind rfl

/-! ### Steps after the end -/

namespace State

omit [TimeScale τ]

variable (s : State τ)

@[simp] lemma close_wait : s.close.wait = s.wait := rfl

@[simp] lemma close_guard : s.close.guard = s.guard := rfl

@[simp] lemma close_reads : s.close.reads = s.reads := rfl

@[simp] lemma close_checks : s.close.checks = s.checks := rfl

end State

/-- The wait has been cancelled if it goes on at the end of the guard, and otherwise not. -/
def State.Closed (s : State τ) : Prop :=
  s.cancelled = (s.guard.outcome?.isSome && s.wait.outcome?.isNone)

section Closed

variable {r feed} {s : State τ}

omit [TimeScale τ] in
lemma State.Closed.live (h : s.Closed) (hrunning : s.guard.outcome? = none) :
    s.cancelled = false := by
  rw [h, hrunning]
  rfl

/-- A wait that has not been cancelled takes its step. -/
lemma step_wait (hlive : s.cancelled = false) :
    r.step feed s .wait
      = ({ s with
            wait := (r.poll.step (feed.read s.reads s.checks) s.wait).1
            reads := Poll.count s.reads (r.poll.step (feed.read s.reads s.checks) s.wait).1 },
          (r.poll.step (feed.read s.reads s.checks) s.wait).2) := by
  simp [step, hlive]

/-- After the end, neither side goes any further. -/
lemma step_of_ended (h : s.Closed) (hended : s.guard.outcome? ≠ none) (side : Side) :
    r.step feed s side = (s, []) := by
  obtain ⟨wait, guard, reads, checks, cancelled⟩ := s
  cases guard with
  | pausing | checking => exact absurd rfl hended
  | finished t o =>
    obtain rfl : cancelled = wait.outcome?.isNone := h
    cases side with
    | guard => simp [step, guardStep, State.close, count, Guard.outcome?]
    | wait => cases wait <;> simp [step, Poll.State.outcome?, Poll.step, Poll.count]

lemma State.Closed.step (h : s.Closed) (side : Side) : (r.step feed s side).1.Closed := by
  by_cases hrunning : s.guard.outcome? = none
  · have hlive : s.cancelled = false := h.live hrunning
    cases side with
    | wait => simp [step_wait hlive, State.Closed, hlive, hrunning]
    | guard => simp [Race.step, State.Closed, State.close, hlive]
  · rwa [step_of_ended h hrunning]

end Closed

/-! ### Courses -/

namespace Course

/-- The next point, when this side takes a step. -/
def next (c : Course τ) (side : Side) : Course τ :=
  ⟨(r.step feed c.state side).1, c.events ++ (r.step feed c.state side).2⟩

/-- The end of the race, if it has been reached. -/
def ended? (c : Course τ) : Option (Ended τ Unit) :=
  match c.state.guard with
  | .finished t o => some ⟨t, o, c.events⟩
  | _             => none

end Course

/-- The point that a race has reached when its sides have taken steps in this order. -/
def course (sides : List Side) : Course τ :=
  sides.foldl (Course.next r feed) ⟨(r.start feed now).1, (r.start feed now).2⟩

@[simp] lemma course_nil :
    r.course feed now [] = ⟨(r.start feed now).1, (r.start feed now).2⟩ := rfl

lemma course_concat (sides : List Side) (side : Side) :
    r.course feed now (sides ++ [side]) = (r.course feed now sides).next r feed side := by
  rw [course, List.foldl_append]
  rfl

/-- Taken in this order, the steps bring the race to this end. -/
def EndsBy (sides : List Side) (e : Ended τ Unit) : Prop :=
  (r.course feed now sides).state.guard = .finished e.time e.outcome ∧
    e.events = .notice r.poll.opening :: (r.course feed now sides).events

/-- Each side takes its steps only when it may. -/
inductive InOrder : List Side → Prop where
  | nil : InOrder []
  | concat {sides : List Side} {side : Side} (h : InOrder sides)
      (may : (r.course feed now sides).state.guard.outcome? = none →
        mayStep (r.course feed now sides).state side = true) : InOrder (sides ++ [side])

variable {r feed now}

lemma Course.next_of_ended {c : Course τ} (h : c.state.Closed)
    (hended : c.state.guard.outcome? ≠ none) (side : Side) : c.next r feed side = c := by
  rw [Course.next, step_of_ended h hended, List.append_nil]

/-- At every point of a race, the wait has been cancelled just if it has to be. -/
lemma closed_course (sides : List Side) : (r.course feed now sides).state.Closed := by
  induction sides using List.reverseRecOn with
  | nil =>
    have hbegin : State.Closed ⟨.ready now, r.rest now, 0, 0, false⟩ := rfl
    exact hbegin.step .wait
  | append_singleton sides side ih =>
    rw [course_concat]
    exact ih.step side

/-- Nothing follows the end. -/
lemma course_append_of_ended {sides : List Side}
    (h : (r.course feed now sides).state.guard.outcome? ≠ none) (more : List Side) :
    r.course feed now (sides ++ more) = r.course feed now sides := by
  induction more using List.reverseRecOn with
  | nil => rw [List.append_nil]
  | append_singleton more side ih =>
    rw [← List.append_assoc, course_concat, ih, Course.next_of_ended (closed_course sides) h]

lemma EndsBy.append {sides : List Side} {e : Ended τ Unit} (h : r.EndsBy feed now sides e)
    (more : List Side) : r.EndsBy feed now (sides ++ more) e := by
  have hended : (r.course feed now sides).state.guard.outcome? ≠ none := by
    rw [h.1]
    exact Option.some_ne_none _
  rw [EndsBy, course_append_of_ended hended]
  exact h

lemma exists_endsBy {sides : List Side} {o : Except Failure Unit}
    (h : (r.course feed now sides).state.guard.outcome? = some o) :
    ∃ e, r.EndsBy feed now sides e ∧ e.outcome = o := by
  cases hg : (r.course feed now sides).state.guard with
  | pausing | checking => simp [hg, Guard.outcome?] at h
  | finished t o' =>
    rw [hg] at h
    exact ⟨⟨t, o', _⟩, ⟨hg, rfl⟩, Option.some.inj h⟩

/-! ### Runs -/

variable (r feed now)

/-- The order of so many steps in which the wait goes first whenever it may. -/
def turns : Nat → List Side
  | 0     => []
  | k + 1 => turns k ++ [turn (r.course feed now (turns k)).state]

/-- The next point in that order. -/
def Course.nextTurn (c : Course τ) : Course τ := c.next r feed (turn c.state)

lemma course_turns (k : Nat) :
    r.course feed now (r.turns feed now k)
      = (Course.nextTurn r feed)^[k] (r.course feed now []) := by
  induction k with
  | zero => rfl
  | succ k ih => rw [turns, course_concat, Function.iterate_succ_apply', ← ih, Course.nextTurn]

lemma runFrom_eq (fuel : Nat) {c : Course τ} (h : c.state.Closed) :
    (r.runFrom feed fuel c.state).map (·.after c.events)
      = ((Course.nextTurn r feed)^[fuel] c).ended? := by
  induction fuel generalizing c with
  | zero =>
    obtain ⟨⟨wait, guard, reads, checks, cancelled⟩, events⟩ := c
    cases guard <;> simp [runFrom, Course.ended?, Ended.after]
  | succ fuel ih =>
    rw [Function.iterate_succ_apply, ← ih (h.step (turn c.state))]
    by_cases hrunning : c.state.guard.outcome? = none
    · obtain ⟨⟨wait, guard, reads, checks, cancelled⟩, events⟩ := c
      cases guard with
      | finished t o => cases hrunning
      | pausing t | checking t result =>
        simp [runFrom, Course.nextTurn, Course.next, Ended.after, Function.comp_def]
    · rw [Course.nextTurn, Course.next_of_ended h hrunning]
      obtain ⟨⟨wait, guard, reads, checks, cancelled⟩, events⟩ := c
      cases guard with
      | finished t o => cases fuel <;> simp [runFrom]
      | pausing | checking => exact absurd rfl hrunning

/-- With rules, a run is the course in the order in which the wait goes first. -/
theorem run_eq (hrules : r.rules ≠ []) (fuel : Nat) :
    r.run feed fuel now
      = ((r.course feed now (r.turns feed now fuel)).ended?).map
          (·.after [.notice r.poll.opening]) := by
  rw [course_turns, ← runFrom_eq r feed fuel (closed_course []), run,
    if_neg (by simpa using hrules), Option.map_map]
  simp [Ended.after, Function.comp_def]

lemma run_eq_some_iff (hrules : r.rules ≠ []) {fuel : Nat} {e : Ended τ Unit} :
    r.run feed fuel now = some e ↔ r.EndsBy feed now (r.turns feed now fuel) e := by
  rw [run_eq r feed now hrules, EndsBy]
  obtain ⟨time, outcome, events⟩ := e
  cases hg : (r.course feed now (r.turns feed now fuel)).state.guard with
  | finished t o =>
    simp only [Course.ended?, hg, Option.map_some, Ended.after, List.cons_append, List.nil_append,
      Option.some.injEq, Ended.mk.injEq, Guard.finished.injEq, and_assoc]
    rw [eq_comm (a := Event.notice _ :: _)]
  | pausing t | checking t result => simp [Course.ended?, hg]

end TimeScale

end Race

end Settle

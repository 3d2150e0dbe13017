import Mathlib.Order.Monotone.Basic
import Mathlib.Tactic.Lemma
import Settle.Wait.Poll

/-!
# The course of a wait

Where a wait stands after any number of steps, how often the object has been read by then, and
what has happened. A run with enough fuel is the course up to the end of the wait, so whatever is
shown of each point of the course holds of the run.
-/

namespace Settle

/-- A call tells its own time and no other. -/
lemma Reply.times_events {τ α : Type} (reply : Reply τ α) (c d : Call) (t : τ) :
    (reply.events c t).filterMap (Event.timeOf? d) = if c = d then [t] else [] := by
  have hnotices : (reply.notices.map Event.notice).filterMap (Event.timeOf? d) = [] := by
    simp [List.filterMap_map, Function.comp_def, Event.timeOf?]
  rw [Reply.events, List.filterMap_cons, hnotices]
  by_cases hcd : c = d <;> simp [Event.timeOf?, hcd]

namespace Poll

/-- A point in the course of a wait. -/
structure Course (τ : Type) where
  state  : State τ
  reads  : Nat
  events : List (Event τ)

variable {τ : Type} [TimeScale τ] (p : Poll τ) (source : Source τ Value)

/-- A step begins a read, or it makes no call and does not depend on what a read would bring. -/
lemma step_cases (reply : Reply τ Value) (s : State τ) :
    (∃ t, s = .ready t ∧ p.deadline.expired t = false ∧
      p.step reply s
        = (.reading (TimeScale.pause t reply.delay) reply.result, reply.events .read t)) ∨
    ((∀ reply', p.step reply' s = p.step reply s) ∧ (∀ n, count n (p.step reply s).1 = n) ∧
      ∀ c, (p.step reply s).2.filterMap (Event.timeOf? c) = []) := by
  cases s with
  | ready t =>
    cases hexp : p.deadline.expired t with
    | true => exact Or.inr (by simp [step, hexp, count])
    | false => exact Or.inl ⟨t, rfl, hexp, by simp [step, hexp]⟩
  | reading back result =>
    refine Or.inr ⟨fun _ => rfl, ?_⟩
    cases hj : p.target.judge result with
    | none => simp [step, hj, count]
    | some o => cases o <;> simp [step, hj, count, farewell, Event.timeOf?]
  | finished t o => exact Or.inr (by simp [step, count])

lemma step_times_of_ne {c : Call} (hc : c ≠ .read) (reply : Reply τ Value) (s : State τ) :
    (p.step reply s).2.filterMap (Event.timeOf? c) = [] := by
  rcases p.step_cases reply s with ⟨t, -, -, hstep⟩ | ⟨-, -, htimes⟩
  · rw [hstep, Reply.times_events, if_neg hc.symm]
  · exact htimes c

namespace Course

/-- The next point. -/
def next (c : Course τ) : Course τ :=
  let (state, events) := p.step (source c.reads) c.state
  ⟨state, count c.reads state, c.events ++ events⟩

/-- The end of the wait, if it has been reached. -/
def ended? (c : Course τ) : Option (Ended τ Unit) :=
  match c.state with
  | .finished t o => some ⟨t, o, c.events⟩
  | _             => none

lemma next_of_finished {c : Course τ} {t : τ} {o : Except Failure Unit}
    (h : c.state = .finished t o) : c.next p source = c := by
  obtain ⟨state, reads, events⟩ := c
  simp only at h
  subst h
  simp [next, step, count]

lemma iterate_of_finished {c : Course τ} {t : τ} {o : Except Failure Unit}
    (h : c.state = .finished t o) (k : Nat) : (next p source)^[k] c = c :=
  Function.iterate_fixed (next_of_finished p source h) k

end Course

/-- The point that a wait has reached after so many steps from its beginning. -/
def course (now : τ) (k : Nat) : Course τ := (Course.next p source)^[k] ⟨.ready now, 0, []⟩

@[simp] lemma course_zero (now : τ) : p.course source now 0 = ⟨.ready now, 0, []⟩ := rfl

lemma course_succ (now : τ) (k : Nat) :
    p.course source now (k + 1) = (p.course source now k).next p source :=
  Function.iterate_succ_apply' ..

omit [TimeScale τ] in
lemma le_count (n : Nat) (s : State τ) : n ≤ count n s := by
  cases s <;> simp [count]

lemma reads_monotone (now : τ) : Monotone fun k => (p.course source now k).reads :=
  monotone_nat_of_le_succ fun k => by
    rw [course_succ]
    exact le_count _ _

/-- Nothing follows the end. -/
lemma course_of_le_of_finished {now : τ} {k m : Nat} {t : τ} {o : Except Failure Unit}
    (h : (p.course source now k).state = .finished t o) (hkm : k ≤ m) :
    p.course source now m = p.course source now k := by
  obtain ⟨n, rfl⟩ := Nat.exists_eq_add_of_le hkm
  rw [course, Nat.add_comm, Function.iterate_add_apply]
  exact Course.iterate_of_finished p source h n

/-- What a state owes to the reads that have been made. -/
inductive Grounded : Nat → State τ → Prop where
  | ready {n : Nat} {t : τ} : Grounded n (.ready t)
  | reading {n : Nat} {back : τ} : Grounded (n + 1) (.reading back (source n).result)
  | decided {n : Nat} {t : τ} {o : Except Failure Unit}
      (judged : p.target.judge (source n).result = some o) : Grounded (n + 1) (.finished t o)
  | expired {n : Nat} {t : τ} (expired : p.deadline.expired t = true) :
      Grounded n (.finished t (.error (.expired (p.target.reason p.name))))

lemma grounded (now : τ) (k : Nat) :
    p.Grounded source (p.course source now k).reads (p.course source now k).state := by
  induction k with
  | zero => exact .ready
  | succ k ih =>
    rw [course_succ]
    generalize p.course source now k = c at ih
    obtain ⟨state, reads, events⟩ := c
    cases ih with
    | @ready n t =>
      cases hexp : p.deadline.expired t with
      | true => simpa [Course.next, step, hexp, count] using Grounded.expired hexp
      | false => simpa [Course.next, step, hexp, count] using Grounded.reading
    | @reading n back =>
      cases hj : p.target.judge (source n).result with
      | none => simpa [Course.next, step, hj, count] using Grounded.ready
      | some o => simpa [Course.next, step, hj, count] using Grounded.decided hj
    | decided judged => exact .decided judged
    | expired expired => exact .expired expired

lemma runFrom_eq (fuel : Nat) (c : Course τ) :
    (p.runFrom source fuel c.reads c.state).map (·.after c.events)
      = ((Course.next p source)^[fuel] c).ended? := by
  induction fuel generalizing c with
  | zero =>
    obtain ⟨state, reads, events⟩ := c
    cases state <;> simp [runFrom, Course.ended?, Ended.after]
  | succ fuel ih =>
    have hstep : ∀ s, c.state = s → (∀ t o, s ≠ .finished t o) →
        p.runFrom source (fuel + 1) c.reads s
          = (p.runFrom source fuel (c.next p source).reads (c.next p source).state).map
              (·.after (p.step (source c.reads) s).2) := by
      rintro s rfl hs
      cases hc : c.state with
      | finished t o => exact absurd hc (hs t o)
      | ready now => simp [runFrom, Course.next, hc]
      | reading back result => simp [runFrom, Course.next, hc]
    cases hc : c.state with
    | finished t o =>
      rw [Course.iterate_of_finished p source hc]
      simp [runFrom, Course.ended?, hc, Ended.after]
    | ready now | reading back result =>
      rw [hstep _ hc (by simp), Function.iterate_succ_apply, ← ih, Option.map_map]
      simp [Course.next, hc, Ended.after, Function.comp_def]

/-- A run is the course up to its end. -/
theorem run_eq (fuel : Nat) (now : τ) :
    p.run source fuel now
      = ((p.course source now fuel).ended?).map (·.after [.notice p.opening]) := by
  rw [run, course, ← runFrom_eq]
  simp [Ended.after]

lemma run_eq_some_iff {fuel : Nat} {now : τ} {e : Ended τ Unit} :
    p.run source fuel now = some e ↔
      (p.course source now fuel).state = .finished e.time e.outcome ∧
        e.events = .notice p.opening :: (p.course source now fuel).events := by
  rw [run_eq]
  obtain ⟨time, outcome, events⟩ := e
  cases h : (p.course source now fuel).state with
  | finished t o =>
    simp only [Course.ended?, h, Option.map_some, Ended.after, List.cons_append, List.nil_append,
      Option.some.injEq, Ended.mk.injEq, State.finished.injEq, and_assoc]
    rw [eq_comm (a := Event.notice _ :: _)]
  | ready t | reading t result => simp [Course.ended?, h]

/-- The wait ends at a time, with an outcome. -/
def EndsAt (now t : τ) (o : Except Failure Unit) : Prop :=
  ∃ fuel events, p.run source fuel now = some ⟨t, o, events⟩

lemma endsAt_iff_course {now t : τ} {o : Except Failure Unit} :
    p.EndsAt source now t o ↔ ∃ k, (p.course source now k).state = .finished t o := by
  constructor
  · rintro ⟨fuel, events, hrun⟩
    exact ⟨fuel, ((run_eq_some_iff p source).mp hrun).1⟩
  · rintro ⟨k, hk⟩
    exact ⟨k, _, (run_eq_some_iff p source).mpr ⟨hk, rfl⟩⟩

/-- No read is made after the end. -/
lemma reads_le_of_finished {now : τ} {k : Nat} {t : τ} {o : Except Failure Unit}
    (h : (p.course source now k).state = .finished t o) (m : Nat) :
    (p.course source now m).reads ≤ (p.course source now k).reads := by
  rcases Nat.le_total m k with hle | hle
  · exact reads_monotone p source now hle
  · rw [course_of_le_of_finished p source h hle]

/-- However much fuel there is, a wait ends in one way. -/
lemma EndsAt.unique {now t t' : τ} {o o' : Except Failure Unit}
    (h : p.EndsAt source now t o) (h' : p.EndsAt source now t' o') : t = t' ∧ o = o' := by
  obtain ⟨k, hk⟩ := (endsAt_iff_course p source).mp h
  obtain ⟨m, hm⟩ := (endsAt_iff_course p source).mp h'
  rcases Nat.le_total k m with hle | hle
  · rw [course_of_le_of_finished p source hk hle, hk] at hm
    exact State.finished.inj hm
  · rw [course_of_le_of_finished p source hm hle, hm] at hk
    exact (State.finished.inj hk).imp Eq.symm Eq.symm

/-- A wait that ends in no way runs out of any fuel. -/
lemma run_eq_none_of_not_endsAt {now : τ} (h : ∀ t o, ¬ p.EndsAt source now t o) (fuel : Nat) :
    p.run source fuel now = none := by
  rw [Option.eq_none_iff_forall_ne_some]
  exact fun e he => h e.time e.outcome ⟨fuel, e.events, he⟩

end Poll

end Settle

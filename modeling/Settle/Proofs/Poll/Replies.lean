import Settle.Proofs.Poll.Course
import Settle.Proofs.Retry.ClosedForm

/-!
# Replies that are alike

All that a wait takes from a reply is its delay and what its result decides. So two sources whose
replies agree in these give waits that make the same calls at the same times and end at the same
time with the same outcome, on every scale of time and with any amount of fuel.
-/

namespace Settle

/-- An end and what was done before it, without what was told. -/
def Ended.silent {τ α : Type} (e : Ended τ α) : Ended τ α :=
  { e with events := e.events.filter Event.isAction }

namespace Poll

variable {τ : Type}

/-- Replies agree in their delays and in what they decide. -/
structure Alike (p : Poll τ) (source source' : Source τ Value) : Prop where
  delay : ∀ n, (source' n).delay = (source n).delay
  judge : ∀ n, p.target.judge (source' n).result = p.target.judge (source n).result

/-- States are the same but for what a read brings, which decides the same. -/
inductive State.Alike (p : Poll τ) : State τ → State τ → Prop where
  | same (s : State τ) : Alike p s s
  | reading {back : τ} {result result' : Except Failure Value}
      (judge : p.target.judge result' = p.target.judge result) :
      Alike p (.reading back result) (.reading back result')

variable {p : Poll τ} {source source' : Source τ Value}

lemma State.Alike.count {s s' : State τ} (h : Alike p s s') (reads : Nat) :
    count reads s' = count reads s := by
  cases h <;> rfl

variable [TimeScale τ]

/-- A step from states that are alike does the same. -/
lemma step_alike (h : p.Alike source source') (n : Nat) {s s' : State τ}
    (hs : State.Alike p s s') :
    State.Alike p (p.step (source n) s).1 (p.step (source' n) s').1 ∧
      (p.step (source' n) s').2.filter Event.isAction
        = (p.step (source n) s).2.filter Event.isAction := by
  cases hs with
  | same s =>
    cases s with
    | ready t =>
      cases hexp : p.deadline.expired t with
      | true =>
        simp only [step, hexp, if_true]
        exact ⟨.same _, trivial⟩
      | false =>
        simp only [step, hexp, h.delay n]
        exact ⟨.reading (h.judge n), by simp⟩
    | reading | finished => exact ⟨.same _, rfl⟩
  | reading judge =>
    simp only [step, judge]
    exact ⟨.same _, trivial⟩

namespace Course

/-- Points of two courses are the same but for what has been told. -/
structure Alike (p : Poll τ) (c c' : Course τ) : Prop where
  state  : State.Alike p c.state c'.state
  reads  : c'.reads = c.reads
  events : c'.events.filter Event.isAction = c.events.filter Event.isAction

lemma Alike.next (h : p.Alike source source') {c c' : Course τ} (hc : Alike p c c') :
    Alike p (c.next p source) (c'.next p source') := by
  have hstep := step_alike h c.reads hc.state
  simp only [Course.next, hc.reads]
  refine ⟨hstep.1, hstep.1.count c.reads, ?_⟩
  rw [List.filter_append, List.filter_append, hc.events, hstep.2]

omit [TimeScale τ] in
lemma Alike.ended? {c c' : Course τ} (hc : Alike p c c') :
    c'.ended?.map Ended.silent = c.ended?.map Ended.silent := by
  obtain ⟨state, reads, events⟩ := c
  obtain ⟨state', reads', events'⟩ := c'
  obtain ⟨hstate, -, hevents⟩ := hc
  cases hstate with
  | same =>
    cases state with
    | finished t o => simpa [Course.ended?, Ended.silent] using hevents
    | ready | reading => rfl
  | reading => rfl

end Course

lemma course_alike (h : p.Alike source source') (now : τ) (k : Nat) :
    Course.Alike p (p.course source now k) (p.course source' now k) := by
  induction k with
  | zero => exact ⟨.same _, rfl, rfl⟩
  | succ k ih =>
    rw [course_succ, course_succ]
    exact ih.next h

/-- Replies that are alike make no difference, but for what is told of them. -/
theorem run_alike (h : p.Alike source source') (fuel : Nat) (now : τ) :
    (p.run source' fuel now).map Ended.silent = (p.run source fuel now).map Ended.silent := by
  have hended := (course_alike h now fuel).ended?
  simp only [run_eq, Option.map_map]
  have hsilent : Ended.silent ∘ (Ended.after [.notice p.opening] : Ended τ Unit → _)
      = Ended.silent := rfl
  rw [hsilent, hended]

end Poll

end Settle

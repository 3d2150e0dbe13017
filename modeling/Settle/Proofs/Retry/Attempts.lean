import Mathlib.Tactic.Lemma
import Settle.Apply.Retry
import Settle.Proofs.Poll.Course

/-!
# What the attempts come to

On every scale of time, a run of attempts is a row of writes of which all but the last one fail,
and not for good. Its outcome is what comes of the last one, and it ends when that one comes back.
-/

namespace Settle

namespace Retry

variable {τ α : Type}

/-- A write fails, but not for good. -/
def Failing (result : Except Failure α) : Prop :=
  ∃ e, result = .error e ∧ ∀ cause, e ≠ .permanent cause

/-- What comes of the last attempt, the `n`-th one counted from zero. -/
inductive ComesTo (n : Nat) : Except Failure α → Except Failure α → Prop where
  | success (v : α) : ComesTo n (.ok v) (.ok v)
  | forGood (cause : Failure) : ComesTo n (.error (.permanent cause)) (.error cause)
  | exhausted {e : Failure} (another : ∀ cause, e ≠ .permanent cause) :
      ComesTo n (.error e) (.error (.exhausted (n + 1) e))

/-- The attempts from one on have ended with the `n`-th one. -/
structure EndsWith [TimeScale τ] (source : Source τ α) (made n : Nat) (e : Ended τ α) : Prop where
  le      : made ≤ n
  failing : ∀ j, made ≤ j → j < n → Failing (source j).result
  outcome : ComesTo n (source n).result e.outcome
  /-- There are as many writes as attempts. -/
  writes  : (e.times .write).length = n + 1 - made
  back    : ∃ t, (e.times .write).getLast? = some t ∧ e.time = TimeScale.pause t (source n).delay
  only    : ∀ c ≠ .write, e.times c = []

lemma times_events_append (reply : Reply τ α) (t : τ) {more : List (Event τ)}
    (hmore : ∀ c, more.filterMap (Event.timeOf? c) = []) (c : Call) :
    (reply.events .write t ++ more).filterMap (Event.timeOf? c)
      = if .write = c then [t] else [] := by
  rw [List.filterMap_append, hmore, List.append_nil, Reply.times_events]

variable [GrowingScale τ]

/-- Whatever fuel is left, an attempt is the last one, or it fails, the backoff is not over, and
others follow it after a pause. -/
lemma runFrom_cases (r : Retry τ) (source : Source τ α) (start : τ) (made : Nat) (now : τ) :
    let back := TimeScale.pause now (source made).delay
    let next := TimeScale.pause back (r.backoff.span (made + 1))
    ∃ more : List (Event τ), (∀ c, more.filterMap (Event.timeOf? c) = []) ∧
      ((∃ o, ComesTo made (source made).result o ∧
          ∀ fuel, r.runFrom source start (fuel + 1) made now
            = some ⟨back, o, (source made).events .write now ++ more⟩) ∨
        (Failing (source made).result ∧ r.backoff.isOver start (made + 1) back = false ∧
          ∀ fuel, r.runFrom source start (fuel + 1) made now
            = (r.runFrom source start fuel (made + 1) next).map
                (·.after ((source made).events .write now ++ more)))) := by
  intro back next
  simp only [runFrom]
  cases (source made).result with
  | ok v => exact ⟨[.notice _], fun _ => rfl, Or.inl ⟨_, .success v, fun _ => rfl⟩⟩
  | error err =>
    by_cases hcause : ∃ cause, err = .permanent cause
    · obtain ⟨cause, rfl⟩ := hcause
      exact ⟨[.notice _], fun _ => rfl, Or.inl ⟨_, .forGood cause, fun _ => rfl⟩⟩
    · have another : ∀ cause, err ≠ .permanent cause := not_exists.mp hcause
      simp only
      split
      · exact ⟨[.notice _], fun _ => rfl, Or.inl ⟨_, .exhausted another, fun _ => rfl⟩⟩
      · next hover =>
        exact ⟨[.notice _, .sleep _ _], fun _ => rfl,
          Or.inr ⟨⟨_, rfl, another⟩, Bool.not_eq_true _ ▸ hover, fun _ => rfl⟩⟩

variable {r : Retry τ} {source : Source τ α} {start now : τ}

lemma endsWith_of_runFrom {fuel made : Nat} {e : Ended τ α}
    (h : r.runFrom source start fuel made now = some e) :
    ∃ n, EndsWith source made n e := by
  induction fuel generalizing made now e with
  | zero => cases h
  | succ fuel ih =>
    obtain ⟨more, hmore, ⟨o, ho, hrun⟩ | ⟨hfailing, -, hrun⟩⟩ :=
      r.runFrom_cases source start made now
    · obtain rfl := Option.some.inj ((hrun fuel).symm.trans h)
      have htimes := times_events_append (source made) now hmore
      refine ⟨made, ⟨le_rfl, by omega, ho, ?_, ⟨now, ?_, rfl⟩, ?_⟩⟩
      · rw [Ended.times, htimes, if_pos rfl, List.length_singleton]
        omega
      · rw [Ended.times, htimes, if_pos rfl, List.getLast?_singleton]
      · intro c hc
        rw [Ended.times, htimes, if_neg hc.symm]
    · rw [hrun] at h
      obtain ⟨e', he', rfl⟩ := Option.map_eq_some_iff.mp h
      obtain ⟨n, hn⟩ := ih he'
      have htimes : ∀ c, (e'.after ((source made).events .write now ++ more)).times c
          = (if .write = c then [now] else []) ++ e'.times c := by
        intro c
        rw [Ended.times, Ended.after, List.filterMap_append, times_events_append _ _ hmore,
          Ended.times]
      refine ⟨n, ⟨by have := hn.le; omega, ?_, hn.outcome, ?_, ?_, ?_⟩⟩
      · intro j hj hjn
        rcases Nat.eq_or_lt_of_le hj with rfl | hlt
        · exact hfailing
        · exact hn.failing j hlt hjn
      · have hle := hn.le
        rw [htimes, if_pos rfl, List.length_append, hn.writes, List.length_singleton]
        omega
      · obtain ⟨t, hlast, htime⟩ := hn.back
        refine ⟨t, ?_, htime⟩
        rw [htimes, List.getLast?_append, hlast]
        rfl
      · intro c hc
        rw [htimes, if_neg hc.symm, hn.only c hc, List.append_nil]

/-- A run ends with the first attempt that does not fail, or with one that fails for good or is not
followed by another. -/
theorem endsWith_of_run {fuel : Nat} {e : Ended τ α} (h : r.run source fuel now = some e) :
    ∃ n, EndsWith source 0 n e := by
  obtain ⟨e', he', rfl⟩ := Option.map_eq_some_iff.mp h
  obtain ⟨n, hn⟩ := endsWith_of_runFrom he'
  have htimes : ∀ c, (e'.after [.notice (.applying r.label)]).times c = e'.times c := fun _ => rfl
  refine ⟨n, hn.le, hn.failing, hn.outcome, ?_, ?_, ?_⟩
  · rw [htimes]
    exact hn.writes
  · rw [htimes]
    exact hn.back
  · intro c hc
    rw [htimes]
    exact hn.only c hc

/-- More fuel than a run needs changes nothing. -/
lemma runFrom_of_le {fuel more made : Nat} {e : Ended τ α}
    (h : r.runFrom source start fuel made now = some e) (hle : fuel ≤ more) :
    r.runFrom source start more made now = some e := by
  induction fuel generalizing more made now e with
  | zero => cases h
  | succ fuel ih =>
    obtain ⟨more, rfl⟩ := Nat.exists_eq_add_of_le' (Nat.le_of_add_left_le hle)
    obtain ⟨_, -, ⟨o, -, hrun⟩ | ⟨-, -, hrun⟩⟩ := r.runFrom_cases source start made now
    · rwa [hrun] at h ⊢
    · rw [hrun] at h ⊢
      obtain ⟨e', he', rfl⟩ := Option.map_eq_some_iff.mp h
      rw [ih he' (Nat.le_of_succ_le_succ hle), Option.map_some]

lemma run_of_le {fuel more : Nat} {e : Ended τ α} (h : r.run source fuel now = some e)
    (hle : fuel ≤ more) : r.run source more now = some e := by
  obtain ⟨e', he', rfl⟩ := Option.map_eq_some_iff.mp h
  rw [run, runFrom_of_le he' hle, Option.map_some]

end Retry

end Settle

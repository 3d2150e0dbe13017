import Settle.Proofs.Poll.Timeline

/-!
# Until when a wait lasts

Over exact times a wait does not go back in time, and it lasts until some time or forever
(`WaitsUntil`). With a deadline it does not last forever.
-/

namespace Settle

namespace Poll

section Steps

variable {p : Poll ℚ} {reply : Reply ℚ Value} {s : State ℚ}

lemma time_le_step (hdelay : 0 ≤ reply.delay) :
    s.time ≤ (p.step reply s).1.time := by
  cases s with
  | ready t =>
    cases hexp : p.deadline.expired t with
    | true => simp [step, hexp, State.time]
    | false => simp [step, hexp, State.time, TimeScale.pause_of_nonneg t hdelay, hdelay]
  | reading back result =>
    cases hj : p.target.judge result with
    | some o => simp [step, hj, State.time]
    | none => simpa [step, hj, State.time] using p.deadline.le_pause back p.interval
  | finished t o => exact le_refl t

/-- A step that ends a wait takes no time. -/
lemma time_step_of_finished (h : (p.step reply s).1.outcome? ≠ none) :
    (p.step reply s).1.time = s.time := by
  cases s with
  | ready t =>
    cases hexp : p.deadline.expired t with
    | true => simp [step, hexp, State.time]
    | false => simp [step, hexp, State.outcome?] at h
  | reading back result =>
    cases hj : p.target.judge result with
    | some o => simp [step, hj, State.time]
    | none => simp [step, hj, State.outcome?] at h
  | finished t o => rfl

end Steps

variable (p : Poll ℚ) (source : Source ℚ Value) (now : ℚ)

/-- A wait lasts until a time and has an outcome then, or it lasts forever. -/
inductive WaitsUntil : WithTop ℚ → Except Failure Unit → Prop where
  | ends {t : ℚ} {o : Except Failure Unit} (h : p.EndsAt source now t o) : WaitsUntil t o
  | never {o : Except Failure Unit} (h : ∀ t o, ¬ p.EndsAt source now t o) : WaitsUntil ⊤ o

variable {p source now}

variable (p source now) in
lemma exists_waitsUntil : ∃ T w, p.WaitsUntil source now T w := by
  by_cases h : ∃ t o, p.EndsAt source now t o
  · obtain ⟨t, o, h⟩ := h
    exact ⟨t, o, .ends h⟩
  · exact ⟨⊤, .ok (), .never fun t o hends => h ⟨t, o, hends⟩⟩

lemma WaitsUntil.of_finished {T : WithTop ℚ} {w : Except Failure Unit}
    (h : p.WaitsUntil source now T w) {k : Nat} {t : ℚ} {o : Except Failure Unit}
    (hk : (p.course source now k).state = .finished t o) : T = t ∧ w = o := by
  have hends : p.EndsAt source now t o := (endsAt_iff_course p source).mpr ⟨k, hk⟩
  cases h with
  | ends h =>
    obtain ⟨rfl, rfl⟩ := h.unique p source hends
    exact ⟨rfl, rfl⟩
  | never h => exact absurd hends (h t o)

section Times

variable (hdelay : ∀ n, 0 ≤ (source n).delay)
include hdelay

lemma time_monotone (now : ℚ) : Monotone fun k => (p.course source now k).state.time :=
  monotone_nat_of_le_succ fun k => by
    rw [course_succ]
    exact time_le_step (hdelay _)

/-- A wait is not behind the time until which it lasts. -/
lemma time_le {T : WithTop ℚ} {w : Except Failure Unit} (hT : p.WaitsUntil source now T w)
    (k : Nat) : ((p.course source now k).state.time : WithTop ℚ) ≤ T := by
  cases hT with
  | never => exact le_top
  | @ends t o hends =>
    obtain ⟨m, hm⟩ := (endsAt_iff_course p source).mp hends
    have htime : (p.course source now m).state.time = t := by rw [hm]; rfl
    rw [← htime, WithTop.coe_le_coe]
    rcases Nat.le_total k m with hle | hle
    · exact time_monotone hdelay now hle
    · rw [course_of_le_of_finished p source hm hle]

end Times

namespace Regular

variable (h : p.Regular source)
include h

/-- With a deadline, a wait ends. -/
lemma exists_endsAt (now : ℚ) {e : ℚ} (he : p.deadline.expiry = e) :
    ∃ t o, p.EndsAt source now t o := by
  by_cases hnone : ∀ n, p.TakesPlace source now n → p.target.judge (source n).result = none
  · obtain ⟨m, -, hends⟩ := exists_endsAt_expired h hnone he
    exact ⟨_, _, hends⟩
  · simp only [not_forall] at hnone
    obtain ⟨n, hn, hjudge⟩ := hnone
    obtain ⟨o, ho⟩ := Option.ne_none_iff_exists'.mp hjudge
    exact ⟨_, o, (endsAt_iff h).mpr (Or.inl ⟨n, hn, ho, rfl⟩)⟩

/-- Without a deadline, a wait that has not ended has taken as much time as its pauses. -/
lemma lt_of_time_lt (htop : p.deadline.expiry = ⊤) {k : Nat} {e : ℚ}
    (hpending : (p.course source now k).state.outcome? = none)
    (htime : (p.course source now k).state.time < e) :
    k < 2 * ⌈(e - now) / p.interval⌉₊ := by
  have hstanding := (onTime now h k).standing
  generalize (p.course source now k).state = s at hstanding hpending htime
  generalize (p.course source now k).reads = m at hstanding
  cases hstanding with
  | @ready n t undecided time =>
    rw [htop, max_eq_left le_top, min_eq_left le_top, WithTop.coe_inj] at time
    have := h.lt_ceil_of_readStart_lt (time ▸ htime)
    omega
  | @reading n takesPlace =>
    have := h.lt_ceil_of_readStart_lt (lt_of_le_of_lt (h.readStart_le_readEnd n) htime)
    omega
  | decided | expired => cases hpending

end Regular

/-- A wait that goes on after its first step has begun before the deadline. -/
lemma lt_expiry {k : Nat} (hpending : (p.course source now (k + 1)).state.outcome? = none) :
    (now : WithTop ℚ) < p.deadline.expiry := by
  by_contra hle
  have hexp := p.deadline.expired_iff.mpr (not_lt.mp hle)
  have hfinished : (p.course source now 1).state
      = .finished now (.error (.expired (p.target.reason p.name))) := by
    simp [course_succ, Course.next, step, hexp]
  rw [course_of_le_of_finished p source hfinished (Nat.le_add_left 1 k), hfinished] at hpending
  cases hpending

end Poll

end Settle

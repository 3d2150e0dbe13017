import Settle.Proofs.Poll.FirstDecisive
import Settle.Proofs.Race.Situation

/-!
# How a race ends

Over exact times a race ends in one way, up to the order of the end of the wait and the deadline if
they are at the same time. It ends in every order in which no side gets ahead of the other, unless
the wait alone does not end and no check finds a match.
-/

namespace Settle

namespace Race

variable {r : Race ℚ} {reads checks : Source ℚ Value} {now : ℚ} {T : WithTop ℚ}
  {w : Except Failure Unit}

/-! ### One way to end -/

lemma Performs.of_le (h : r.Regular checks) {j k : Nat} (hk : r.Performs checks now T k)
    (hjk : j ≤ k) : r.Performs checks now T j where
  started   := lt_of_le_of_lt (by exact_mod_cast h.checkStart_strictMono.monotone hjk) hk.started
  unmatched := fun i hi => hk.unmatched i (lt_of_lt_of_le hi hjk)

/-- The checks that take place are those before the end. -/
lemma Settles.performs_iff (h : r.Regular checks) {k : Nat} {t : ℚ} {o : Except Failure Unit}
    (hs : r.Settles checks now T w k t o) (j : Nat) : r.Performs checks now T j ↔ j < k := by
  have hbefore : ∀ j < k, r.Performs checks now T j := by
    cases hs with
    | aborted performs matched => exact fun j hj => performs.of_le h (Nat.le_of_lt_succ hj)
    | waited performs | expired performs => exact performs
  have hend : ¬ r.Performs checks now T k := by
    intro hk
    cases hs with
    | aborted performs matched => exact hk.unmatched _ (Nat.lt_succ_self _) _ matched
    | waited performs ceased | expired performs ceased => exact not_lt.mpr ceased hk.started
  exact ⟨fun hj => not_le.mp fun hle => hend (hj.of_le h hle), hbefore j⟩

/-- The wait and the deadline are both last only if they are at the same time. -/
lemma eq_expiry_of_tie (hne : ∀ k, T ≠ r.checksEnd checks now (k + 1)) {k : Nat}
    (hbegun : (now : WithTop ℚ) < r.poll.deadline.expiry)
    (htie : T = max r.poll.deadline.expiry ↑(r.checksEnd checks now k)) :
    T = r.poll.deadline.expiry := by
  rcases le_total (r.checksEnd checks now k : WithTop ℚ) r.poll.deadline.expiry with hle | hle
  · rwa [max_eq_left hle] at htie
  · rw [max_eq_right hle] at htie
    cases k with
    | zero => exact absurd hle (not_le.mpr hbegun)
    | succ k => exact absurd htie (hne k)

lemma Settles.unique (h : r.Regular checks) (hne : ∀ k, T ≠ r.checksEnd checks now (k + 1))
    {k k' : Nat} {t t' : ℚ} {o o' : Except Failure Unit} (hs : r.Settles checks now T w k t o)
    (hs' : r.Settles checks now T w k' t' o') :
    k = k' ∧ t = t' ∧ (T ≠ r.poll.deadline.expiry → o = o') := by
  have hlt : ∀ j, j < k ↔ j < k' := fun j =>
    (hs.performs_iff h j).symm.trans (hs'.performs_iff h j)
  obtain rfl : k = k' := by
    have hk := hlt k
    have hk' := hlt k'
    omega
  refine ⟨rfl, ?_⟩
  cases hs with
  | @aborted k a performs matched =>
    cases hs' with
    | aborted _ matched' => exact ⟨rfl, fun _ => by rw [matched.unique matched']⟩
    | waited _ _ unmatched | expired _ _ unmatched =>
      exact absurd matched (unmatched k (Nat.lt_succ_self k) a)
  | waited performs ceased unmatched first time =>
    cases hs' with
    | @aborted k a _ matched => exact absurd matched (unmatched k (Nat.lt_succ_self k) a)
    | waited _ _ _ _ time' => exact ⟨WithTop.coe_injective (time.trans time'.symm), fun _ => rfl⟩
    | expired _ _ _ begun first' time' =>
      have htie := le_antisymm first first'
      rw [htie, max_assoc, max_self, ← time'] at time
      exact ⟨WithTop.coe_injective time, fun hT => absurd (eq_expiry_of_tie hne begun htie) hT⟩
  | expired performs ceased unmatched begun first time =>
    cases hs' with
    | @aborted k a _ matched => exact absurd matched (unmatched k (Nat.lt_succ_self k) a)
    | waited _ _ _ first' time' =>
      have htie := le_antisymm first' first
      rw [htie, max_assoc, max_self, ← time] at time'
      exact ⟨(WithTop.coe_injective time').symm,
        fun hT => absurd (eq_expiry_of_tie hne begun htie) hT⟩
    | expired _ _ _ _ _ time' => exact ⟨WithTop.coe_injective (time.trans time'.symm), fun _ => rfl⟩

/-! ### How many steps there are -/

section Bounds

variable {i n : Nat} {c : Course ℚ} (hc : r.Situated checks now reads T w i n c)
  (hrunning : c.state.guard.outcome? = none)
include hc hrunning

omit hrunning in
lemma Situated.checks_le_of_ends (h : r.Regular checks) {t : ℚ} (hT : T = t) :
    c.state.checks ≤ ⌈(t - now) / r.interval⌉₊ := by
  by_contra hlt
  have hstarted := ((hc.performs _ (not_le.mp hlt)).started).trans_le (min_le_left _ _)
  rw [hT, WithTop.coe_lt_coe] at hstarted
  exact lt_irrefl _ (h.lt_ceil_of_checkStart_lt hstarted)

omit hrunning in
lemma Situated.checks_le_of_matches {k : Nat} {a : Abort} (hk : r.Matches (checks k) a) :
    c.state.checks ≤ k + 1 := by
  by_contra hlt
  exact (hc.performs (k + 1) (not_le.mp hlt)).unmatched k (Nat.lt_succ_self k) a hk

lemma Situated.guard_time_le (h : r.Regular checks) :
    c.state.guard.time ≤ r.checkStart checks now c.state.checks := by
  have hguard := hc.guard
  generalize c.state.guard = guard at hguard hrunning
  generalize c.state.checks = k at hguard
  cases hguard with
  | pausing unmatched time => exact Deadline.pause_le_start time
  | checking => exact le_of_lt (h.checksEnd_lt_checkStart now _)
  | finished => cases hrunning

omit hc hrunning in
lemma Guard.steps_le (k : Nat) (guard : Guard ℚ) : guard.steps k ≤ 2 * k := by
  cases guard <;> simp [Guard.steps]

/-- If the wait ends alone, so many steps are not exceeded. -/
lemma Situated.steps_le_of_ends (h : r.Regular checks) {t : ℚ} (hT : T = t) {m : Nat}
    {o : Except Failure Unit} (hm : (r.poll.course reads now m).state = .finished t o) :
    n < m + 2 * ⌈(t - now) / r.interval⌉₊ := by
  have hi : i < m := by
    by_contra hle
    have hpending := hc.pending
    rw [Poll.course_of_le_of_finished r.poll reads hm (not_lt.mp hle), hm] at hpending
    cases hpending
  have hchecks := hc.checks_le_of_ends h hT
  have hsteps := Guard.steps_le c.state.checks c.state.guard
  have hn := hc.steps hrunning
  omega

/-- If a check finds a match and there is no deadline, so many steps are not exceeded. -/
lemma Situated.steps_le_of_matches (h : r.Regular checks) (hreads : r.poll.Regular reads)
    (htop : r.poll.deadline.expiry = ⊤) {k : Nat} {a : Abort} (hk : r.Matches (checks k) a) :
    n < 2 * ⌈(r.checkStart checks now (k + 1) + 1 - now) / r.poll.interval⌉₊ + 2 * (k + 1) := by
  have hchecks := hc.checks_le_of_matches hk
  have htime : (r.poll.course reads now i).state.time < r.checkStart checks now (k + 1) + 1 :=
    calc (r.poll.course reads now i).state.time
        ≤ c.state.guard.time := hc.behind hrunning
      _ ≤ r.checkStart checks now c.state.checks := hc.guard_time_le hrunning h
      _ ≤ r.checkStart checks now (k + 1) := h.checkStart_strictMono.monotone hchecks
      _ < r.checkStart checks now (k + 1) + 1 := lt_add_one _
  have hi := hreads.lt_of_time_lt htop hc.pending htime
  have hsteps := Guard.steps_le c.state.checks c.state.guard
  have hn := hc.steps hrunning
  omega

end Bounds

/-! ### Runs -/

/-- Some side may always take a step. -/
lemma mayStep_turn (s : State ℚ) : mayStep s (turn s) = true := by
  rw [turn]
  split_ifs with h
  · exact h
  · rw [mayStep_guard_iff]
    rw [mayStep_wait_iff, not_and_or, not_le] at h
    exact h.imp_right le_of_lt

lemma inOrder_turns (r : Race ℚ) (feed : Feed ℚ) (now : ℚ) (k : Nat) :
    r.InOrder feed now (r.turns feed now k) := by
  induction k with
  | zero => exact .nil
  | succ k ih => exact ih.concat fun _ => mayStep_turn _

lemma length_turns (r : Race ℚ) (feed : Feed ℚ) (now : ℚ) (k : Nat) :
    (r.turns feed now k).length = k := by
  induction k with
  | zero => rfl
  | succ k ih => rw [turns, List.length_append, ih, List.length_singleton]

lemma exists_endsBy_of_ended {feed : Feed ℚ} {sides : List Side}
    (h : (r.course feed now sides).state.guard.outcome? ≠ none) :
    ∃ e, r.EndsBy feed now sides e := by
  obtain ⟨o, ho⟩ := Option.ne_none_iff_exists'.mp h
  obtain ⟨e, he, -⟩ := exists_endsBy ho
  exact ⟨e, he⟩

/-- A race ends after a number of steps, whatever their order, if the wait ends alone or a check
finds a match. -/
theorem exists_bound (h : r.Regular checks) (hread : ∀ n, 0 ≤ (reads n).delay)
    (hwritable : ∀ k v, (checks k).result = .ok v → v.Writable)
    (hT : r.poll.WaitsUntil reads now T w) (hne : ∀ k, T ≠ r.checkStart checks now k)
    (hend : T ≠ ⊤ ∨ 0 < r.poll.interval ∧ ∃ k a, r.Matches (checks k) a) :
    ∃ N, ∀ sides, r.InOrder (.separate reads checks) now sides → N ≤ sides.length →
      ∃ e, r.EndsBy (.separate reads checks) now sides e := by
  have hsituated : ∀ sides, r.InOrder (.separate reads checks) now sides →
      ∃ i, r.Situated checks now reads T w i sides.length
        (r.course (.separate reads checks) now sides) :=
    fun sides horder => situated h hread hT hwritable hne horder
  cases hT with
  | @ends t o hends =>
    obtain ⟨m, hm⟩ := (Poll.endsAt_iff_course r.poll reads).mp hends
    refine ⟨m + 2 * ⌈(t - now) / r.interval⌉₊, fun sides horder hlength => ?_⟩
    obtain ⟨i, hc⟩ := hsituated sides horder
    refine exists_endsBy_of_ended fun hrunning => ?_
    exact absurd (hc.steps_le_of_ends hrunning h rfl hm) (not_lt.mpr hlength)
  | never hnever =>
    obtain ⟨hinterval, k, a, hk⟩ := hend.resolve_left (not_not.mpr rfl)
    have hreads : r.poll.Regular reads := ⟨hinterval, hread⟩
    have htop : r.poll.deadline.expiry = ⊤ := by
      by_contra hexp
      obtain ⟨e, he⟩ := WithTop.ne_top_iff_exists.mp hexp
      obtain ⟨t, o, hends⟩ := hreads.exists_endsAt now he.symm
      exact hnever t o hends
    refine ⟨2 * ⌈(r.checkStart checks now (k + 1) + 1 - now) / r.poll.interval⌉₊ + 2 * (k + 1),
      fun sides horder hlength => ?_⟩
    obtain ⟨i, hc⟩ := hsituated sides horder
    refine exists_endsBy_of_ended fun hrunning => ?_
    exact absurd (hc.steps_le_of_matches hrunning h hreads htop hk) (not_lt.mpr hlength)

/-- An end of a race is one that its times allow. -/
theorem settles_of_endsBy (h : r.Regular checks) (hread : ∀ n, 0 ≤ (reads n).delay)
    (hwritable : ∀ k v, (checks k).result = .ok v → v.Writable)
    (hT : r.poll.WaitsUntil reads now T w) (hne : ∀ k, T ≠ r.checkStart checks now k)
    {sides : List Side} (horder : r.InOrder (.separate reads checks) now sides)
    {e : Ended ℚ Unit} (hends : r.EndsBy (.separate reads checks) now sides e) :
    ∃ k, (∀ j, r.Performs checks now T j ↔ j < k) ∧
      r.Settles checks now T w k e.time e.outcome ∧
      e.times .check = (List.range k).map (r.checkStart checks now) := by
  obtain ⟨i, hc⟩ := situated h hread hT hwritable hne horder
  obtain ⟨hguard, hevents⟩ := hends
  have hsituation := hc.guard
  rw [hguard] at hsituation
  refine ⟨_, hsituation.settles.performs_iff h, hsituation.settles, ?_⟩
  rw [Ended.times, hevents, List.filterMap_cons]
  exact hc.times

/-- In every order in which no side gets ahead of the other, a race ends as its times say: the
checks that take place are those that begin before the deadline, before the wait alone ends and
before a match. If the last of them finds a match, the race is aborted when it comes back.
Otherwise the race ends with the wait or at the deadline, whichever is first, but not before that
check comes back; if both are at the same time, either may come first. The race does end if the
wait ends alone, or if a check finds a match and the wait pauses between its reads. -/
theorem ends_as_times_say (r : Race ℚ) (hrules : r.rules ≠ []) (reads checks : Source ℚ Value)
    (hinterval : 0 < r.interval) (hread : ∀ n, 0 ≤ (reads n).delay)
    (hcheck : ∀ k, 0 ≤ (checks k).delay)
    (hwritable : ∀ k v, (checks k).result = .ok v → v.Writable) (now : ℚ) :
    (∃ T w, r.poll.WaitsUntil reads now T w) ∧
    (∀ fuel e, r.run (.separate reads checks) fuel now = some e →
      ∃ sides, r.InOrder (.separate reads checks) now sides ∧
        r.EndsBy (.separate reads checks) now sides e) ∧
    ∀ T w, r.poll.WaitsUntil reads now T w →
      (∀ k, T ≠ r.checkStart checks now k ∧ T ≠ r.checksEnd checks now (k + 1)) →
      (∀ sides e, r.InOrder (.separate reads checks) now sides →
        r.EndsBy (.separate reads checks) now sides e →
        ∃ k, (∀ j, r.Performs checks now T j ↔ j < k) ∧
          r.Settles checks now T w k e.time e.outcome ∧
          e.times .check = (List.range k).map (r.checkStart checks now)) ∧
      (∀ k k' t t' o o', r.Settles checks now T w k t o → r.Settles checks now T w k' t' o' →
        k = k' ∧ t = t' ∧ (T ≠ r.poll.deadline.expiry → o = o')) ∧
      (T ≠ ⊤ ∨ 0 < r.poll.interval ∧ (∃ k a, r.Matches (checks k) a) →
        (∃ N, ∀ sides, r.InOrder (.separate reads checks) now sides → N ≤ sides.length →
          ∃ e, r.EndsBy (.separate reads checks) now sides e) ∧
        ∃ fuel e, r.run (.separate reads checks) fuel now = some e) ∧
      (T = ⊤ → r.poll.deadline.expiry = ⊤ → (∀ k a, ¬ r.Matches (checks k) a) →
        ∀ sides e, r.InOrder (.separate reads checks) now sides →
          ¬ r.EndsBy (.separate reads checks) now sides e) := by
  have h : r.Regular checks := ⟨hinterval, hcheck⟩
  have hrun : ∀ fuel e, r.run (.separate reads checks) fuel now = some e ↔
      r.EndsBy (.separate reads checks) now (r.turns (.separate reads checks) now fuel) e :=
    fun fuel e => run_eq_some_iff r _ now hrules
  refine ⟨Poll.exists_waitsUntil ..,
    fun fuel e he => ⟨_, inOrder_turns .., (hrun fuel e).mp he⟩, ?_⟩
  intro T w hT hne
  refine ⟨fun sides e horder hends => ?_, fun k k' t t' o o' hs hs' => ?_, fun hend => ?_,
    fun htop hexp hnone sides e horder hends => ?_⟩
  · exact settles_of_endsBy h hread hwritable hT (fun k => (hne k).1) horder hends
  · exact hs.unique h (fun k => (hne k).2) hs'
  · obtain ⟨N, hN⟩ := exists_bound h hread hwritable hT (fun k => (hne k).1) hend
    obtain ⟨e, he⟩ := hN _ (inOrder_turns r _ now N) (length_turns r _ now N).ge
    exact ⟨⟨N, hN⟩, N, e, (hrun N e).mpr he⟩
  · obtain ⟨k, -, hsettles, -⟩ :=
      settles_of_endsBy h hread hwritable hT (fun k => (hne k).1) horder hends
    generalize e.time = t at hsettles
    generalize e.outcome = o at hsettles
    cases hsettles with
    | aborted performs matched => exact hnone _ _ matched
    | waited _ _ _ _ time => simp [htop] at time
    | expired _ _ _ _ _ time => simp [hexp] at time

/-- A wait under a rule that does not come to bear. -/
def calmRace : Race ℚ := ⟨Poll.readyPoll, [.condition "Failed" "" none], 1⟩

/-- No check can read the object. -/
def lostChecks (_ : Nat) : Reply ℚ Value := ⟨.error (.gone "web"), 0, []⟩

lemma not_matches_lostChecks (k : Nat) (a : Abort) : ¬ calmRace.Matches (lostChecks k) a := by
  rintro ⟨v, ⟨⟩, -⟩

lemma calmRace_checksEnd (k : Nat) : calmRace.checksEnd lostChecks 0 k = k := by
  induction k with
  | zero => rfl
  | succ k ih =>
    rw [checksEnd, ih]
    simp [calmRace, lostChecks]

lemma calmRace_checkStart (k : Nat) : calmRace.checkStart lostChecks 0 k = k + 1 := by
  rw [checkStart, calmRace_checksEnd]
  rfl

lemma calmRace_waitsUntil :
    calmRace.poll.WaitsUntil Poll.readySource 0 ((7 / 2 : ℚ) : WithTop ℚ) (.ok ()) := by
  have hregular : Poll.readyPoll.Regular Poll.readySource :=
    ⟨by norm_num [Poll.readyPoll], Poll.readySource_delay_nonneg⟩
  refine .ends ((Poll.endsAt_iff hregular).mpr (Or.inl ⟨1, ⟨?_, fun j hj => ?_⟩, rfl, ?_⟩))
  · rw [Poll.readyPoll_expiry, WithTop.coe_lt_coe]
    norm_num [Poll.readStart, Poll.readySource, Poll.readyPoll]
  · obtain rfl : j = 0 := by omega
    rfl
  · norm_num [Poll.readEnd, Poll.readStart, Poll.readySource, Poll.readyPoll]

lemma calmRace_settles :
    calmRace.Settles lostChecks 0 ((7 / 2 : ℚ) : WithTop ℚ) (.ok ()) 3 (7 / 2) (.ok ()) := by
  have hexpiry : calmRace.poll.deadline.expiry = ((10 : ℚ) : WithTop ℚ) := Poll.readyPoll_expiry
  have hunmatched : ∀ k, calmRace.Unmatched lostChecks k :=
    fun _ j _ => not_matches_lostChecks j
  refine .waited (fun j hj => ⟨?_, hunmatched j⟩) ?_ (hunmatched 3) ?_ ?_
  · have hle : (j : ℚ) + 1 ≤ 3 := by exact_mod_cast hj
    rw [calmRace_checkStart, hexpiry, ← WithTop.coe_min, WithTop.coe_lt_coe]
    exact lt_of_le_of_lt hle (by norm_num)
  · rw [calmRace_checkStart, hexpiry, ← WithTop.coe_min, WithTop.coe_le_coe]
    norm_num
  · rw [calmRace_checksEnd, hexpiry, ← WithTop.coe_max, WithTop.coe_le_coe]
    norm_num
  · rw [calmRace_checksEnd, ← WithTop.coe_max, WithTop.coe_inj]
    norm_num

lemma calmRace_apart (k : Nat) :
    ((7 / 2 : ℚ) : WithTop ℚ) ≠ calmRace.checkStart lostChecks 0 k ∧
      ((7 / 2 : ℚ) : WithTop ℚ) ≠ calmRace.checksEnd lostChecks 0 (k + 1) := by
  have hne : (7 / 2 : ℚ) ≠ ((k + 1 : ℕ) : ℚ) := by
    rw [Ne, div_eq_iff two_ne_zero]
    norm_cast
    omega
  rw [calmRace_checkStart, calmRace_checksEnd, Ne, WithTop.coe_inj, Ne, WithTop.coe_inj]
  exact ⟨by exact_mod_cast hne, hne⟩

theorem calmRace_ends_with_wait :
    calmRace.rules ≠ [] ∧ 0 < calmRace.interval ∧ (∀ n, 0 ≤ (Poll.readySource n).delay) ∧
      (∀ k, 0 ≤ (lostChecks k).delay) ∧
      (∀ k v, (lostChecks k).result = .ok v → v.Writable) ∧
      ∃ fuel e, calmRace.run (.separate Poll.readySource lostChecks) fuel 0 = some e ∧
        e.time = 7 / 2 ∧ e.outcome = .ok () ∧ e.times .check = [1, 2, 3] := by
  have hrules : calmRace.rules ≠ [] := by simp [calmRace]
  have hinterval : 0 < calmRace.interval := by norm_num [calmRace]
  have hcheck : ∀ k, 0 ≤ (lostChecks k).delay := fun _ => le_refl 0
  have hwritable : ∀ k v, (lostChecks k).result = .ok v → v.Writable := by rintro k v ⟨⟩
  refine ⟨hrules, hinterval, Poll.readySource_delay_nonneg, hcheck, hwritable, ?_⟩
  obtain ⟨-, hrun, hends⟩ := ends_as_times_say calmRace hrules Poll.readySource lostChecks hinterval
    Poll.readySource_delay_nonneg hcheck hwritable 0
  obtain ⟨hsettles, hunique, hbound, -⟩ := hends _ _ calmRace_waitsUntil calmRace_apart
  obtain ⟨-, fuel, e, he⟩ := hbound (Or.inl WithTop.coe_ne_top)
  obtain ⟨sides, horder, hside⟩ := hrun fuel e he
  obtain ⟨k, -, hk, htimes⟩ := hsettles sides e horder hside
  obtain ⟨rfl, htime, houtcome⟩ := hunique _ _ _ _ _ _ calmRace_settles hk
  have hexpiry : ((7 / 2 : ℚ) : WithTop ℚ) ≠ calmRace.poll.deadline.expiry := by
    rw [show calmRace.poll.deadline.expiry = ((10 : ℚ) : WithTop ℚ) from Poll.readyPoll_expiry,
      Ne, WithTop.coe_inj]
    norm_num
  refine ⟨fuel, e, he, htime.symm, (houtcome hexpiry).symm, ?_⟩
  rw [htimes]
  norm_num [List.range_succ, calmRace_checkStart]

end Race

end Settle

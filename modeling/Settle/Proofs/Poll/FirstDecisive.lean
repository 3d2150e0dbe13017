import Settle.Proofs.Poll.Timeline
import Settle.Proofs.Strategy.Decides

/-!
# The first read that decides a wait

A wait for a state ends with the first read that fails or whose snapshot shows the state or makes
no sense, even when that read comes back behind the deadline. Without such a read it ends at the
deadline, or behind it with the last read. Each snapshot counts on its own.
-/

namespace Settle

namespace Poll

section Reads

variable (p : Poll ℚ) (source : Source ℚ Value) (now : ℚ)

/-- The object is read for the `n`-th time, counted from zero, at a time. -/
def ReadsAt (n : Nat) (t : ℚ) : Prop :=
  ∃ k, ((p.course source now k).events.filterMap (Event.timeOf? .read))[n]? = some t

variable {p source now}

lemma times_getElem?_eq_some_iff (h : p.Regular source) {k n : Nat} {t : ℚ} :
    ((p.course source now k).events.filterMap (Event.timeOf? .read))[n]? = some t ↔
      n < (p.course source now k).reads ∧ t = p.readStart source now n := by
  rw [(onTime now h k).times, List.getElem?_map]
  by_cases hn : n < (p.course source now k).reads
  · simp [hn, eq_comm]
  · simp [hn]

lemma readsAt_iff (h : p.Regular source) {n : Nat} {t : ℚ} :
    p.ReadsAt source now n t ↔ p.TakesPlace source now n ∧ t = p.readStart source now n := by
  simp only [ReadsAt, times_getElem?_eq_some_iff h, exists_and_right, takesPlace_iff h]

/-- The reads that a run tells are the reads of the wait. -/
lemma times_eq_some_iff (h : p.Regular source) {fuel : Nat} {e : Ended ℚ Unit}
    (hrun : p.run source fuel now = some e) {n : Nat} {t : ℚ} :
    (e.times .read)[n]? = some t ↔ p.ReadsAt source now n t := by
  obtain ⟨hstate, hevents⟩ := (run_eq_some_iff p source).mp hrun
  have htimes : e.times .read
      = (p.course source now fuel).events.filterMap (Event.timeOf? .read) := by
    rw [Ended.times, hevents, List.filterMap_cons]
    rfl
  rw [htimes]
  refine ⟨fun ht => ⟨fuel, ht⟩, fun ⟨k, hk⟩ => ?_⟩
  rw [times_getElem?_eq_some_iff h] at hk ⊢
  exact ⟨lt_of_lt_of_le hk.1 (reads_le_of_finished p source hstate k), hk.2⟩

end Reads

/-- Delays and decisions are all that a wait takes from its source. -/
lemma endsAt_congr {p : Poll ℚ} {source source' : Source ℚ Value} {now : ℚ} (h : p.Regular source)
    (hdelay : ∀ n, (source' n).delay = (source n).delay)
    (hjudge : ∀ n, p.target.judge (source' n).result = p.target.judge (source n).result)
    {t : ℚ} {o : Except Failure Unit} :
    p.EndsAt source' now t o ↔ p.EndsAt source now t o := by
  have h' : p.Regular source' := ⟨h.interval_pos, fun n => hdelay n ▸ h.delay_nonneg n⟩
  have hstart : ∀ n, p.readStart source' now n = p.readStart source now n := by
    intro n
    induction n with
    | zero => rfl
    | succ n ih => rw [readStart, readStart, ih, hdelay]
  have hend : ∀ n, p.readEnd source' now n = p.readEnd source now n := by
    intro n
    rw [readEnd, readEnd, hstart, hdelay]
  have hlast : ∀ n, p.lastEnd source' now n = p.lastEnd source now n := by
    intro n
    cases n with
    | zero => rfl
    | succ n => exact hend n
  have hundecided : ∀ n, p.Undecided source' n ↔ p.Undecided source n := by
    simp only [Undecided, hjudge, implies_true]
  have htakes : ∀ n, p.TakesPlace source' now n ↔ p.TakesPlace source now n := fun n =>
    ⟨fun hn => ⟨hstart n ▸ hn.started, (hundecided n).mp hn.undecided⟩,
      fun hn => ⟨(hstart n).symm ▸ hn.started, (hundecided n).mpr hn.undecided⟩⟩
  simp only [endsAt_iff h, endsAt_iff h', htakes, hundecided, hstart, hend, hlast, hjudge]

/-- An object of which one condition holds. -/
def readyObject : Value :=
  .map [("status", .map [("conditions",
    .list [.map [("type", .str "Ready"), ("status", .str "True")]])])]

/-- A wait for that condition. -/
def readyPoll : Poll ℚ :=
  ⟨.state (.conditions [⟨"Ready", "True"⟩]), "web", .starting 0 10, 2⟩

/-- The object has no status when it is read first. -/
def readySource : Source ℚ Value
  | 0     => ⟨.ok (.map []), 1, []⟩
  | _ + 1 => ⟨.ok readyObject, 1 / 2, []⟩

lemma readySource_delay_nonneg (n : Nat) : 0 ≤ (readySource n).delay := by
  cases n <;> norm_num [readySource]

lemma readyPoll_expiry : readyPoll.deadline.expiry = ((10 : ℚ) : WithTop ℚ) := by
  simp [readyPoll]

lemma readySource_undecided (o : Except Failure Unit) :
    ¬ Strategy.Decides (.conditions [⟨"Ready", "True"⟩]) (readySource 0).result o := by
  rintro (_ | h | h) <;> cases h

end Poll

end Settle

import Settle.Proofs.Rollout.WellFormed
import Settle.Proofs.Text.Numeral

/-!
# Rollouts that are done

A rollout is judged by a few counters, of which each may be left out and then counts as zero. It is
done exactly if the status has converged on what the spec wants, and it is refused exactly if the
controller has seen the latest generation and given up on it, or if the strategy is one that cannot
be judged. Everything else is waited for.
-/

namespace Settle

/-! ### Texts of other values

Only a text is shown as the name of a strategy: what is shown of another value begins otherwise. -/

namespace Decimal

lemma head?_ofNat (n : Nat) : ∃ d ∈ (ofNat n).head?, d.isDigit = true := by
  obtain ⟨d, ds, hds⟩ := List.exists_cons_of_ne_nil (ofNat_ne_nil n)
  refine ⟨d, by simp [hds], isDigit_of_mem_ofNat (n := n) ?_⟩
  rw [hds]
  exact List.mem_cons_self

end Decimal

namespace Binary64

/-- In either notation, a number begins with a digit. -/
lemma Scientific.head?_text (low high : Int) (whole : Text) (s : Scientific) :
    ∃ d ∈ (s.text low high whole).head?, d.isDigit = true := by
  obtain ⟨d, hd, hdigit⟩ := Decimal.head?_ofNat s.digits
  obtain ⟨ds, hds⟩ := List.head?_eq_some_iff.mp hd
  simp only [text, hds]
  split_ifs
  · exact ⟨d, by cases ds <;> simp [pointed], hdigit⟩
  · exact ⟨CodePoint.ofChar '0', rfl, by decide⟩
  · exact ⟨d, by simp, hdigit⟩
  · exact ⟨d, by simp, hdigit⟩

end Binary64

namespace Rollout

lemma ne_rollingUpdate_of_digit {t : Text} (h : ∃ d ∈ t.head?, d.isDigit = true) :
    t ≠ rollingUpdate := by
  rintro rfl
  obtain ⟨d, hd, hdigit⟩ := h
  cases hd
  revert hdigit
  decide

lemma cons_ne_rollingUpdate {c : CodePoint} {t : Text} (h : c ≠ CodePoint.ofChar 'R') :
    c :: t ≠ rollingUpdate := fun ht => h (List.cons.inj ht).1

lemma ofInt_ne_rollingUpdate (n : Int) : Decimal.ofInt n ≠ rollingUpdate := by
  cases n with
  | ofNat n => exact ne_rollingUpdate_of_digit (Decimal.head?_ofNat n)
  | negSucc n => exact cons_ne_rollingUpdate (by decide)

lemma text_ne_rollingUpdate (x : Binary64) : x.text ≠ rollingUpdate := by
  cases x with
  | nan => decide
  | infinite negative => cases negative <;> decide
  | finite negative m e h =>
    cases negative with
    | true => exact cons_ne_rollingUpdate (by decide)
    | false =>
      simp only [Binary64.text, Bool.false_eq_true, if_false]
      split
      · decide
      · exact ne_rollingUpdate_of_digit (Binary64.Scientific.head?_text ..)

/-- Only the text itself is shown as the name of the strategy. -/
lemma shown_eq_rollingUpdate_iff {v : Value} :
    shown v = .ok rollingUpdate ↔ v = .str rollingUpdate := by
  refine ⟨fun h => ?_, fun h => h ▸ rfl⟩
  have h : v.shown = .ok rollingUpdate := mapError_eq_ok_iff.mp h
  cases v with
  | str t => exact congrArg Value.str (Except.ok.inj h)
  | null => exact absurd (Except.ok.inj h) (by decide)
  | bool b => cases b <;> exact absurd (Except.ok.inj h) (by decide)
  | int n =>
    simp only [Value.shown, Value.literal, Value.toDocument, Document.literal,
      Document.literalIn, Decimal.write] at h
    split at h
    · cases h
    · exact absurd (Except.ok.inj h) (ofInt_ne_rollingUpdate n)
  | float x => exact absurd (Except.ok.inj h) (text_ne_rollingUpdate x)
  | list vs =>
    obtain ⟨ts, -, hts⟩ := bind_eq_ok_iff.mp h
    exact absurd (Except.ok.inj hts) (cons_ne_rollingUpdate (by decide))
  | map es =>
    obtain ⟨ts, -, hts⟩ := bind_eq_ok_iff.mp h
    exact absurd (Except.ok.inj hts) (cons_ne_rollingUpdate (by decide))

/-! ### How a rollout is judged -/

/-- The rollout is done. -/
def Finishes (x : Except Failure Progress) : Prop := ∃ message, x = .ok ⟨message, true⟩

/-- The rollout has failed or cannot be judged. -/
def Refuses (x : Except Failure Progress) : Prop := ∃ problem, x = .error (.rollout problem)

section Judgements

variable {α : Type}

@[simp] lemma finishes_pure_iff {p : Progress} : Finishes (pure p) ↔ p.done = true := by
  cases p
  simp [Finishes, pure, Except.pure]

@[simp] lemma finishes_ite_iff {c : Prop} [Decidable c] {x y : Except Failure Progress} :
    Finishes (if c then x else y) ↔ c ∧ Finishes x ∨ ¬ c ∧ Finishes y := by
  by_cases h : c <;> simp [h]

@[simp] lemma finishes_bind_iff {x : Except Failure α} {f : α → Except Failure Progress} :
    Finishes (x >>= f) ↔ ∃ a, x = .ok a ∧ Finishes (f a) := by
  cases x with
  | error e => simp [Finishes, bind, Except.bind]
  | ok a => simp [bind, Except.bind]

@[simp] lemma not_refuses_pure {p : Progress} : ¬ Refuses (pure p) := by
  rintro ⟨problem, ⟨⟩⟩

@[simp] lemma refuses_ite_iff {c : Prop} [Decidable c] {x y : Except Failure Progress} :
    Refuses (if c then x else y) ↔ c ∧ Refuses x ∨ ¬ c ∧ Refuses y := by
  by_cases h : c <;> simp [h]

@[simp] lemma refuses_bind_iff {x : Except Failure α} {f : α → Except Failure Progress} :
    Refuses (x >>= f) ↔ (∃ problem, x = .error (.rollout problem)) ∨
      ∃ a, x = .ok a ∧ Refuses (f a) := by
  cases x with
  | error e => simp [Refuses, bind, Except.bind]
  | ok a => simp [bind, Except.bind]

/-- A number that cannot be written is no reason to refuse a rollout. -/
@[simp] lemma write_ne_rollout {n : Int} {problem : Text} :
    write n ≠ .error (.rollout problem) := by
  rw [write]
  cases Decimal.write n <;> simp [Except.mapError]

@[simp] lemma shown_ne_rollout {v : Value} {problem : Text} :
    shown v ≠ .error (.rollout problem) := by
  rw [shown]
  cases v.shown <;> simp [Except.mapError]

/-- A check is passed where some condition holds, and refuses the rollout elsewhere. -/
def Checks (P : Prop) (x : Except Failure Unit) : Prop :=
  P ∧ x = .ok () ∨ ¬ P ∧ ∃ problem, x = .error (.rollout problem)

lemma Checks.exists_ok_iff {P : Prop} {x : Except Failure Unit} (h : Checks P x) :
    (∃ u, x = .ok u) ↔ P := by
  obtain ⟨hP, rfl⟩ | ⟨hP, problem, rfl⟩ := h <;> simp [hP]

lemma Checks.exists_error_iff {P : Prop} {x : Except Failure Unit} (h : Checks P x) :
    (∃ problem, x = .error (.rollout problem)) ↔ ¬ P := by
  obtain ⟨hP, rfl⟩ | ⟨hP, problem, rfl⟩ := h <;> simp [hP]

end Judgements

/-! ### The parts that are judged -/

/-- The number that a counter stands for. -/
def number : Value → Int
  | .int n => n
  | _      => 0

/-- The entries of a list. -/
def items : Value → List Value
  | .list vs => vs
  | _        => []

/-- The condition says that there has been no progress for too long. -/
def IsFailing (condition : Value) : Prop :=
  part "type" condition = .str "Progressing" ∧ part "reason" condition = .str deadlineExceeded

section Parts

variable (object : Value)

/-- The generation of the object. -/
def generation : Int := number (part "generation" (part "metadata" object))

/-- A counter in the status. -/
def counted (name : Text) : Int := number (part name (part "status" object))

/-- How many replicas are wanted; null if that is not said. -/
def wanted : Value := part "replicas" (part "spec" object)

/-- How a set is updated. -/
def strategy : Value := part "updateStrategy" (part "spec" object)

/-- How many replicas of a set are not to be updated; null if that is not said. -/
def limit : Value := part "partition" (part "rollingUpdate" (strategy object))

/-- The strategy is the one that can be judged, which is also the one where none is named. -/
def IsRolling : Prop :=
  (part "type" (strategy object)).isBlank = true ∨
    part "type" (strategy object) = .str rollingUpdate

/-- A condition says that the rollout has not made progress for too long. -/
def HasFailed : Prop := ∃ c ∈ items (part "conditions" (part "status" object)), IsFailing c

/-- The controller has seen the latest generation. -/
def IsSeen : Prop := generation object ≤ counted object "observedGeneration"

instance : Decidable (IsSeen object) := Int.decLe _ _

end Parts

/-- All replicas of a deployment have been updated and are available, and there are no others. -/
@[mk_iff]
structure DeploymentConverged (object : Value) : Prop where
  seen      : IsSeen object
  running   : ¬ HasFailed object
  updated   : wanted object ≠ .null → number (wanted object) ≤ counted object "updatedReplicas"
  settled   : counted object "replicas" ≤ counted object "updatedReplicas"
  available : counted object "updatedReplicas" ≤ counted object "availableReplicas"

/-- As many pods as are desired have been updated, and as many are available. -/
@[mk_iff]
structure DaemonSetConverged (object : Value) : Prop where
  rolling   : IsRolling object
  seen      : IsSeen object
  updated   : counted object "desiredNumberScheduled" ≤ counted object "updatedNumberScheduled"
  available : counted object "desiredNumberScheduled" ≤ counted object "numberAvailable"

/-- All replicas of a stateful set are ready, and those that the partition leaves have been
updated; without a partition, the revision that is wanted is the current one. -/
@[mk_iff]
structure StatefulSetConverged (object : Value) : Prop where
  rolling  : IsRolling object
  noticed  : counted object "observedGeneration" ≠ 0
  seen     : IsSeen object
  ready    : wanted object ≠ .null → number (wanted object) ≤ counted object "readyReplicas"
  updated  : limit object ≠ .null → wanted object ≠ .null →
    number (wanted object) - number (limit object) ≤ counted object "updatedReplicas"
  revision : limit object = .null →
    (part "updateRevision" (part "status" object)).same
      (part "currentRevision" (part "status" object)) = true

/-- The status has converged on what the spec wants. -/
def Converged (object : Value) : Workload → Prop
  | .deployment  => DeploymentConverged object
  | .daemonSet   => DaemonSetConverged object
  | .statefulSet => StatefulSetConverged object

/-- The rollout has failed, and that is not the news of an older generation; or it is one that
cannot be judged. -/
def Refused (object : Value) : Workload → Prop
  | .deployment               => IsSeen object ∧ HasFailed object
  | .daemonSet | .statefulSet => ¬ IsRolling object

/-! ### Objects of the right types -/

/-- A counter is left out or an integer. -/
def IsWhole (v : Value) : Prop := v = .null ∨ ∃ n : Int, v = .int n

/-- The sections of an object are maps, its counters are integers and its conditions are a list of
maps, and each of them may be left out. -/
structure Typed (object : Value) (w : Workload) : Prop where
  metadata      : IsSection (part "metadata" object)
  generation    : IsWhole (part "generation" (part "metadata" object))
  spec          : IsSection (part "spec" object)
  replicas      : w ≠ .daemonSet → IsWhole (wanted object)
  update        : w ≠ .deployment → IsSection (strategy object)
  rollingUpdate : w = .statefulSet → IsSection (part "rollingUpdate" (strategy object))
  partition     : w = .statefulSet → IsWhole (limit object)
  status        : IsSection (part "status" object)
  counts        : ∀ name ∈ counters w, IsWhole (part name (part "status" object))
  conditions    : w = .deployment → (part "conditions" (part "status" object)).isBlank = true ∨
    ∃ cs : List (List (Text × Value)),
      part "conditions" (part "status" object) = .list (cs.map .map)

lemma eq_null_iff {v : Value} : v = .null ↔ v.isNull = true := by
  cases v <;> simp [Value.isNull]

lemma exists_int {v : Value} (h : IsWhole v) (hnull : v.isNull = false) : ∃ n : Int, v = .int n :=
  h.resolve_left fun hv => Bool.false_ne_true (hnull ▸ eq_null_iff.mp hv)

lemma count_eq_number {v : Value} (h : IsWhole v) : count v = .ok (number v) := by
  obtain rfl | ⟨n, rfl⟩ := h
  · rfl
  · rw [count]
    split
    · next hblank =>
      have hn : n = 0 := by simpa [Value.isBlank] using hblank
      rw [hn]
      rfl
    · rfl

lemma countOf_eq_number {name : Text} {v : Value} {fs : List (Text × Value)}
    (hparts : ∀ key, part key (.map fs) = part key v) (h : IsWhole (part name v)) :
    countOf name (.map fs) = .ok (number (part name v)) := by
  rw [countOf, field_map, ok_bind, hparts, count_eq_number h]

/-- A number that is wanted is compared as an integer. -/
lemma isBelow_eq {v : Value} (h : IsWhole v) (hnull : v.isNull = false) (n : Int) :
    isBelow n v = .ok (decide (n < number v)) := by
  obtain ⟨m, rfl⟩ := exists_int h hnull
  rfl

lemma minus_eq {v : Value} (h : IsWhole v) (hnull : v.isNull = false) (n : Int) :
    minus v n = .ok (.int (number v - n)) := by
  obtain ⟨m, rfl⟩ := exists_int h hnull
  rfl

lemma exists_write_number {v : Value} (h : v.Writable) : ∃ t, write (number v) = .ok t := by
  cases v with
  | int n => exact exists_write (h n .whole)
  | _ => exact exists_write (n := 0) (by decide +kernel)

/-! ### Conditions and strategies -/

lemma exists_isFailed (c : List (Text × Value)) :
    ∃ b, isFailed (.map c) = .ok b ∧ (b = true ↔ IsFailing (.map c)) := by
  simp only [isFailed, IsFailing, field_map, ok_bind, ← Value.same_str_iff]
  split
  · next htype => exact ⟨_, rfl, by simp [htype]⟩
  · next htype => exact ⟨false, rfl, by simp [htype]⟩

/-- Any condition that says that the rollout has failed refuses it. -/
lemma checkConditions_checks (name : Text) (cs : List (List (Text × Value))) :
    Checks (¬ ∃ c ∈ cs.map Value.map, IsFailing c) (checkConditions name (cs.map .map)) := by
  induction cs with
  | nil => exact Or.inl ⟨by simp, rfl⟩
  | cons c cs ih =>
    obtain ⟨b, hb, hfailing⟩ := exists_isFailed c
    rw [List.map_cons, List.exists_mem_cons_iff, ← hfailing, checkConditions, hb, ok_bind]
    cases b with
    | true => exact Or.inr ⟨by simp, _, rfl⟩
    | false => simpa using ih

/-- Conditions that are left out are none. -/
lemma exists_conditions_eq {v : Value}
    (h : v.isBlank = true ∨ ∃ cs : List (List (Text × Value)), v = .list (cs.map .map)) :
    ∃ cs : List (List (Text × Value)),
      conditions v = .ok (cs.map .map) ∧ items v = cs.map .map := by
  by_cases hblank : v.isBlank = true
  · refine ⟨[], by simp [conditions, hblank], ?_⟩
    cases v with
    | list vs => exact List.isEmpty_iff.mp hblank
    | _ => rfl
  · obtain ⟨cs, rfl⟩ := h.resolve_left hblank
    exact ⟨cs, by simp [conditions, hblank], rfl⟩

/-- A strategy with another name refuses the rollout. -/
lemma checkStrategy_checks {es ss us : List (Text × Value)}
    (hus : section? "updateStrategy" (.map ss) = .ok (.map us))
    (huparts : ∀ key, part key (.map us) = part key (strategy (.map es)))
    (hwritable : (Value.map us).Writable) :
    Checks (IsRolling (.map es)) (checkStrategy (.map ss)) := by
  obtain ⟨t, ht⟩ := exists_shown (writable_part hwritable "type")
  simp only [checkStrategy, hus, field_map, ok_bind, IsRolling, ← huparts]
  by_cases hblank : (part "type" (.map us)).isBlank = true
  · exact Or.inl ⟨Or.inl hblank, by simp [hblank]⟩
  · simp only [hblank, ht, ok_bind, ← shown_eq_rollingUpdate_iff, Except.ok.injEq,
      Bool.false_eq_true, false_or]
    by_cases hrolling : t = rollingUpdate
    · exact Or.inl ⟨hrolling, if_neg (not_not_intro hrolling)⟩
    · exact Or.inr ⟨hrolling, _, if_pos hrolling⟩

/-! ### Workloads -/

section Workloads

variable {es : List (Text × Value)} {w : Workload}

lemma Typed.observed_eq (h : Typed (.map es) w) :
    observed (.map es) = .ok (decide (IsSeen (.map es))) := by
  obtain ⟨ms, hms, -, hmparts⟩ := exists_section h.metadata
  obtain ⟨ts, hts, -, htparts⟩ := exists_section h.status
  have hmem : Text.ofString "observedGeneration" ∈ counters w := by
    cases w <;> exact List.mem_cons_self
  simp only [observed, hms, hts, ok_bind, countOf_eq_number hmparts h.generation,
    countOf_eq_number htparts (h.counts _ hmem)]
  rfl

lemma Typed.countOf_status (h : Typed (.map es) w) {ts : List (Text × Value)}
    (htparts : ∀ key, part key (.map ts) = part key (part "status" (.map es))) (name : Text)
    (hname : name ∈ counters w) : countOf name (.map ts) = .ok (counted (.map es) name) :=
  countOf_eq_number htparts (h.counts name hname)

/-- The strategy of a set is read as a map. -/
lemma Typed.exists_strategy (h : Typed (.map es) w) (hw : w ≠ .deployment)
    (hes : (Value.map es).Writable) {ss : List (Text × Value)}
    (hspec : ss = [] ∨ part "spec" (.map es) = .map ss)
    (hsparts : ∀ key, part key (.map ss) = part key (part "spec" (.map es))) :
    ∃ us, section? "updateStrategy" (.map ss) = .ok (.map us) ∧
      (∀ key, part key (.map us) = part key (strategy (.map es))) ∧
      Checks (IsRolling (.map es)) (checkStrategy (.map ss)) := by
  have hstrategy : part "updateStrategy" (.map ss) = strategy (.map es) := hsparts _
  obtain ⟨us, hus, hupdate, huparts⟩ := exists_section (hstrategy ▸ h.update hw)
  rw [hstrategy] at huparts
  exact ⟨us, hus, huparts, checkStrategy_checks hus huparts
    (writable_section (writable_section hes hspec) hupdate)⟩

lemma deployment_judged (hes : (Value.map es).Writable) (h : Typed (.map es) .deployment) :
    (Finishes (deployment (.map es) 0) ↔ DeploymentConverged (.map es)) ∧
      (Refuses (deployment (.map es) 0) ↔ IsSeen (.map es) ∧ HasFailed (.map es)) := by
  obtain ⟨n, hn⟩ := exists_name hes h.metadata
  obtain ⟨ss, hss, -, hsparts⟩ := exists_section h.spec
  obtain ⟨ts, hts, -, htparts⟩ := exists_section h.status
  obtain ⟨cs, hcs, hitems⟩ := exists_conditions_eq (h.conditions rfl)
  have hchecks : Checks (¬ HasFailed (.map es)) (checkConditions n (cs.map .map)) := by
    rw [HasFailed, hitems]
    exact checkConditions_checks n cs
  have hupdated := h.countOf_status htparts "updatedReplicas" (by simp [counters])
  have hreplicas := h.countOf_status htparts "replicas" (by simp [counters])
  have havailable := h.countOf_status htparts "availableReplicas" (by simp [counters])
  have hwanted := count_eq_number (h.replicas (by decide))
  simp only [deployment, hn, hss, hts, h.observed_eq, field_map, hsparts, htparts, hcs, hupdated,
    hreplicas, havailable, ← wanted.eq_1, hwanted, ok_bind, lt_irrefl, if_false]
  -- What is left are the checks, the comparisons, and messages that do not end a rollout.
  constructor
  · cases hnull : (wanted (.map es)).isNull <;>
      simp [-bind_pure_comp, hchecks.exists_ok_iff, deploymentConverged_iff, eq_null_iff, hnull]
  · simp [-bind_pure_comp, hchecks.exists_error_iff]

lemma daemonSet_judged (hes : (Value.map es).Writable) (h : Typed (.map es) .daemonSet) :
    (Finishes (daemonSet (.map es)) ↔ DaemonSetConverged (.map es)) ∧
      (Refuses (daemonSet (.map es)) ↔ ¬ IsRolling (.map es)) := by
  obtain ⟨n, hn⟩ := exists_name hes h.metadata
  obtain ⟨ss, hss, hspec, hsparts⟩ := exists_section h.spec
  obtain ⟨ts, hts, -, htparts⟩ := exists_section h.status
  obtain ⟨-, -, -, hchecks⟩ := h.exists_strategy (by decide) hes hspec hsparts
  have hdesired := h.countOf_status htparts "desiredNumberScheduled" (by simp [counters])
  have hupdated := h.countOf_status htparts "updatedNumberScheduled" (by simp [counters])
  have havailable := h.countOf_status htparts "numberAvailable" (by simp [counters])
  simp only [daemonSet, hn, hss, hts, h.observed_eq, hdesired, hupdated, havailable, ok_bind]
  constructor
  · simp [-bind_pure_comp, hchecks.exists_ok_iff, daemonSetConverged_iff]
  · simp [-bind_pure_comp, hchecks.exists_error_iff]

/-- With a partition, the replicas that it leaves have been updated. -/
lemma partitioned_judged (hes : (Value.map es).Writable) (h : Typed (.map es) .statefulSet)
    {ts : List (Text × Value)}
    (htparts : ∀ key, part key (.map ts) = part key (part "status" (.map es))) :
    (Finishes (partitioned (.map ts) (wanted (.map es)) (limit (.map es))) ↔
      (wanted (.map es) ≠ .null → number (wanted (.map es)) - number (limit (.map es))
        ≤ counted (.map es) "updatedReplicas")) ∧
      ¬ Refuses (partitioned (.map ts) (wanted (.map es)) (limit (.map es))) := by
  have hupdated := h.countOf_status htparts "updatedReplicas" (by simp [counters])
  have hlimit := count_eq_number (h.partition rfl)
  obtain ⟨t, ht⟩ : ∃ t, write (counted (.map es) "updatedReplicas") = .ok t :=
    exists_write_number (writable_part (writable_part hes _) _)
  simp only [partitioned, hupdated, hlimit, ht, ok_bind]
  cases hnull : (wanted (.map es)).isNull with
  | true => simp [eq_null_iff, hnull]
  | false =>
    simp only [minus_eq (h.replicas (by decide)) hnull, isBelow, ok_bind]
    simp [-bind_pure_comp, eq_null_iff, hnull]

lemma statefulSet_judged (hes : (Value.map es).Writable) (h : Typed (.map es) .statefulSet) :
    (Finishes (statefulSet (.map es)) ↔ StatefulSetConverged (.map es)) ∧
      (Refuses (statefulSet (.map es)) ↔ ¬ IsRolling (.map es)) := by
  obtain ⟨ss, hss, hspec, hsparts⟩ := exists_section h.spec
  obtain ⟨ts, hts, hstatus, htparts⟩ := exists_section h.status
  obtain ⟨us, hus, huparts, hchecks⟩ := h.exists_strategy (by decide) hes hspec hsparts
  obtain ⟨rs, hrs, -, hrparts⟩ := exists_section (huparts _ ▸ h.rollingUpdate rfl)
  have hlimit : part "partition" (.map rs) = limit (.map es) := by
    rw [hrparts, huparts, limit]
  have hseen := h.countOf_status htparts "observedGeneration" (by simp [counters])
  have hready := h.countOf_status htparts "readyReplicas" (by simp [counters])
  have hupdated := h.countOf_status htparts "updatedReplicas" (by simp [counters])
  have hcurrent := h.countOf_status htparts "currentReplicas" (by simp [counters])
  -- The last message shows a counter and a revision, which can be written.
  obtain ⟨hfinishes, hrefuses⟩ := partitioned_judged hes h htparts
  obtain ⟨t, ht⟩ : ∃ t, write (counted (.map es) "currentReplicas") = .ok t :=
    exists_write_number (writable_part (writable_part hes _) _)
  obtain ⟨r, hr⟩ := exists_shown (writable_part (writable_part hes "status") "currentRevision")
  simp only [statefulSet, hss, hts, hus, hrs, h.observed_eq, field_map, hlimit, hsparts, htparts,
    ← wanted.eq_1, hseen, hready, hupdated, hcurrent, ht, hr, ok_bind]
  have hbelow := isBelow_eq (h.replicas (by decide))
  have hminus := minus_eq (h.replicas (by decide))
  -- What is wanted and what is held back may each be left out, and is then not compared.
  constructor
  · cases hnull : (wanted (.map es)).isNull <;> cases hpartition : (limit (.map es)).isNull <;>
      simp [-bind_pure_comp, hchecks.exists_ok_iff, statefulSetConverged_iff, hfinishes, hbelow,
        eq_null_iff, hnull, hpartition]
  · cases hnull : (wanted (.map es)).isNull <;>
      simp [-bind_pure_comp, hchecks.exists_error_iff, hrefuses, hbelow, hminus, hnull]

end Workloads

/-- Of an object of the right types, whose integers can be written, the rollout is done exactly if
the status has converged, and it is refused exactly if it has failed or cannot be judged. -/
theorem done_iff_converged {w : Workload} {es : List (Text × Value)}
    (hes : (Value.map es).Writable) (h : Typed (.map es) w) :
    ((∃ message, status w (.map es) 0 = .ok ⟨message, true⟩) ↔ Converged (.map es) w) ∧
      ((∃ problem, status w (.map es) 0 = .error (.rollout problem)) ↔ Refused (.map es) w) := by
  cases w with
  | deployment => exact deployment_judged hes h
  | daemonSet => exact daemonSet_judged hes h
  | statefulSet => exact statefulSet_judged hes h

/-- A stateful set of which the partition leaves two of three replicas to be updated. -/
def heldBack : Value :=
  .map [("metadata", .map [("generation", .int 4)]),
    ("spec", .map [("replicas", .int 3),
      ("updateStrategy", .map [("rollingUpdate", .map [("partition", .int 1)])])]),
    ("status", .map [("observedGeneration", .int 4), ("readyReplicas", .int 3),
      ("updatedReplicas", .int 2)])]

lemma heldBack_writable : heldBack.Writable := by
  have hshort : ∀ n ∈ [(1 : Int), 2, 3, 4], Decimal.tooLong n = false := by decide +kernel
  simp only [List.forall_mem_cons] at hshort
  simp [heldBack, hshort]

lemma heldBack_typed : Typed heldBack .statefulSet where
  metadata := Or.inr ⟨_, rfl⟩
  generation := Or.inr ⟨4, rfl⟩
  spec := Or.inr ⟨_, rfl⟩
  replicas _ := Or.inr ⟨3, rfl⟩
  update _ := Or.inr ⟨_, rfl⟩
  rollingUpdate _ := Or.inr ⟨_, rfl⟩
  partition _ := Or.inr ⟨1, rfl⟩
  status := Or.inr ⟨_, rfl⟩
  counts name h := by
    simp only [counters, List.mem_cons, List.not_mem_nil, or_false] at h
    obtain rfl | rfl | rfl | rfl := h
    exacts [Or.inr ⟨4, rfl⟩, Or.inr ⟨3, rfl⟩, Or.inr ⟨2, rfl⟩, Or.inl rfl]
  conditions h := by cases h

lemma heldBack_converged : StatefulSetConverged heldBack where
  rolling := Or.inl rfl
  noticed := by decide
  seen := by decide
  ready _ := by decide
  updated _ _ := by decide
  revision h := by cases h

theorem heldBack_done :
    (∃ message, status .statefulSet heldBack 0 = .ok ⟨message, true⟩) ∧
      ¬ ∃ problem, status .statefulSet heldBack 0 = .error (.rollout problem) := by
  obtain ⟨hdone, hrefused⟩ := done_iff_converged heldBack_writable heldBack_typed
  exact ⟨hdone.mpr heldBack_converged, mt hrefused.mp fun h => h (Or.inl rfl)⟩

end Rollout

end Settle

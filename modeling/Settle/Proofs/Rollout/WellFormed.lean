import Settle.Proofs.Except
import Settle.Proofs.Number.Literal
import Settle.Proofs.Raises
import Settle.Proofs.Value.Scalar
import Settle.Rollout.Status

/-!
# Objects whose rollout can be judged

The parts of a workload that a rollout is judged by have types: sections are maps, counters are
natural numbers, conditions are a list of maps and annotations are texts, and each may be left out.
Where they have these types and all numbers can be written, judging the rollout has a result or
fails for a reason of its own; every other failure comes from a part of another type.
-/

namespace Settle

/-- A failure is one of those that operations are meant to end with. -/
def Failure.Own (e : Failure) : Prop := e.isOwn = true

namespace Rollout

open Failure (Own)

/-! ### Parts of objects -/

/-- What is filed under a name in a map; null where there is nothing or no map. -/
def part (name : Text) : Value → Value
  | .map es => (Value.lookup name es).getD .null
  | _       => .null

/-- A section is left out or a map. -/
def IsSection (v : Value) : Prop := v.isBlank = true ∨ ∃ es, v = .map es

/-- A counter is left out or a natural number, perhaps written as text. -/
def IsCounter (v : Value) : Prop := ∃ n : Nat, count v = .ok n

lemma field_map (name : Text) (es : List (Text × Value)) :
    field name (.map es) = .ok (part name (.map es)) := rfl

lemma part_of_isBlank {v : Value} (h : v.isBlank = true) (name : Text) : part name v = .null := by
  cases v with
  | map es =>
    obtain rfl : es = [] := List.isEmpty_iff.mp h
    rfl
  | _ => rfl

lemma writable_part {v : Value} (h : v.Writable) (name : Text) : (part name v).Writable := by
  cases v with
  | map es =>
    cases hlookup : Value.lookup name es with
    | none => simp [part, hlookup]
    | some w =>
      simp only [part, hlookup, Option.getD_some]
      exact h.of_occurs (.entry (Value.mem_of_lookup hlookup) .whole)
  | _ => simp [part]

/-- A section that is left out is read as an empty map, and another one as the map that it is. -/
lemma exists_section {es : List (Text × Value)} {name : Text}
    (h : IsSection (part name (.map es))) :
    ∃ fs, section? name (.map es) = .ok (.map fs) ∧ (fs = [] ∨ part name (.map es) = .map fs) ∧
      ∀ key, part key (.map fs) = part key (part name (.map es)) := by
  rw [section?, field_map, ok_bind]
  cases hblank : (part name (.map es)).isBlank with
  | true => exact ⟨[], rfl, Or.inl rfl, fun key => (part_of_isBlank hblank key).symm⟩
  | false =>
    obtain hblank' | ⟨fs, hfs⟩ := h
    · rw [hblank] at hblank'
      cases hblank'
    · exact ⟨fs, by rw [hfs]; rfl, Or.inr hfs, fun key => by rw [hfs]⟩

lemma writable_section {es fs : List (Text × Value)} {name : Text} (hes : (Value.map es).Writable)
    (h : fs = [] ∨ part name (.map es) = .map fs) : (Value.map fs).Writable := by
  obtain rfl | hfs := h
  · simp
  · exact hfs ▸ writable_part hes name

/-! ### Numbers that can be written -/

/-- A counter of an object that can be written can be written. -/
lemma tooLong_count {v : Value} {n : Int} (hv : v.Writable) (h : count v = .ok n) :
    Decimal.tooLong n = false := by
  unfold count at h
  split at h
  · cases h
    decide +kernel
  · cases v with
    | null | list | map => cases h
    | bool b =>
      cases h
      cases b <;> decide +kernel
    | int n =>
      cases h
      exact hv n .whole
    | str t =>
      exact Literal.tooLong_integer (mapError_eq_ok_iff.mp h)
    | float x =>
      cases x with
      | nan | infinite => cases h
      | finite =>
        cases h
        exact Binary64.tooLong_truncate _

/-! ### Well-formed workloads -/

/-- The counters in the status of a workload. -/
def counters : Workload → List Text
  | .deployment  => ["observedGeneration", "updatedReplicas", "replicas", "availableReplicas"]
  | .daemonSet   =>
    ["observedGeneration", "desiredNumberScheduled", "updatedNumberScheduled", "numberAvailable"]
  | .statefulSet => ["observedGeneration", "readyReplicas", "updatedReplicas", "currentReplicas"]

/-- The number of replicas that is wanted; that of a stateful set is not read from text. -/
def IsWanted (v : Value) : Workload → Prop
  | .deployment  => IsCounter v
  | .daemonSet   => True
  | .statefulSet => v = .null ∨ ∃ n : Nat, v = .int n

/-- The parts of an object that its rollout is judged by have the types of their kind. -/
structure WellFormed (object : Value) (w : Workload) : Prop where
  metadata    : IsSection (part "metadata" object)
  generation  : IsCounter (part "generation" (part "metadata" object))
  annotations : w = .deployment → IsSection (part "annotations" (part "metadata" object))
  revision    : w = .deployment → ∀ es v, part "annotations" (part "metadata" object) = .map es →
    Value.lookup revisionKey es = some v → ∃ t, v = .str t
  spec        : IsSection (part "spec" object)
  wanted      : IsWanted (part "replicas" (part "spec" object)) w
  strategy    : w ≠ .deployment → IsSection (part "updateStrategy" (part "spec" object))
  rolling     : w = .statefulSet →
    IsSection (part "rollingUpdate" (part "updateStrategy" (part "spec" object)))
  partition   : w = .statefulSet → IsCounter
    (part "partition" (part "rollingUpdate" (part "updateStrategy" (part "spec" object))))
  status      : IsSection (part "status" object)
  counted     : ∀ name ∈ counters w, IsCounter (part name (part "status" object))
  conditions  : w = .deployment → (part "conditions" (part "status" object)).isBlank = true ∨
    ∃ cs : List (List (Text × Value)),
      part "conditions" (part "status" object) = .list (cs.map .map)

/-! ### Reading well-formed parts -/

lemma exists_shown {v : Value} (h : v.Writable) : ∃ t, shown v = .ok t := by
  obtain ⟨t, ht⟩ := h.exists_shown
  exact ⟨t, mapError_eq_ok_iff.mpr ht⟩

lemma exists_write {n : Int} (h : Decimal.tooLong n = false) : ∃ t, write n = .ok t :=
  ⟨Decimal.ofInt n, mapError_eq_ok_iff.mpr (if_neg (by simp [h]))⟩

lemma write_raises_own {n : Int} (h : Decimal.tooLong n = false) : Raises Own (write n) := by
  obtain ⟨t, ht⟩ := exists_write h
  rw [ht]
  exact .ok t

/-- A counter in a field is a natural number that can be written. -/
lemma exists_countOf {es : List (Text × Value)} (name : Text) (hes : (Value.map es).Writable)
    (h : IsCounter (part name (.map es))) :
    ∃ n : Nat, countOf name (.map es) = .ok n ∧ Decimal.tooLong n = false := by
  obtain ⟨n, hn⟩ := h
  exact ⟨n, hn, tooLong_count (writable_part hes name) hn⟩

/-- The name in well-formed metadata. -/
lemma exists_name {es : List (Text × Value)} (hes : (Value.map es).Writable)
    (h : IsSection (part "metadata" (.map es))) : ∃ t, name (.map es) = .ok t := by
  obtain ⟨ms, hms, hmetadata, -⟩ := exists_section h
  rw [name, hms, ok_bind]
  refine exists_shown ?_
  cases hname : Value.lookup "name" ms with
  | none => simp
  | some v =>
    exact (writable_section hes hmetadata).of_occurs (.entry (Value.mem_of_lookup hname) .whole)

@[simp] lemma own_rollout (problem : Text) : Own (.rollout problem) := rfl

/-- No condition says that the rollout has failed, or the failure says that one does. -/
lemma checkConditions_raises_own (name : Text) (cs : List (List (Text × Value))) :
    Raises Own (checkConditions name (cs.map .map)) := by
  induction cs with
  | nil => exact .ok ()
  | cons c cs ih => simp [checkConditions, isFailed, field_map, ok_bind, ih]

namespace WellFormed

variable {es : List (Text × Value)} {w : Workload} (h : WellFormed (.map es) w)
include h

lemma exists_observed (hes : (Value.map es).Writable) : ∃ b, observed (.map es) = .ok b := by
  obtain ⟨ms, hms, hmetadata, hmparts⟩ := exists_section h.metadata
  obtain ⟨ts, hts, hstatus, htparts⟩ := exists_section h.status
  have hmem : Text.ofString "observedGeneration" ∈ counters w := by
    cases w <;> exact List.mem_cons_self
  obtain ⟨m, hm, -⟩ := exists_countOf _ (writable_section hes hmetadata) (hmparts _ ▸ h.generation)
  obtain ⟨n, hn, -⟩ :=
    exists_countOf _ (writable_section hes hstatus) (htparts _ ▸ h.counted _ hmem)
  simp only [observed, hms, hts, hm, hn, ok_bind]
  exact ⟨_, rfl⟩

/-- The strategy of a set is one that can be judged, or the failure says that it is not. -/
lemma checkStrategy_raises (hw : w ≠ .deployment) {ss : List (Text × Value)}
    (hspec : (Value.map ss).Writable)
    (hsparts : ∀ key, part key (.map ss) = part key (part "spec" (.map es))) :
    Raises Own (checkStrategy (.map ss)) := by
  obtain ⟨us, hus, hstrategy, -⟩ := exists_section (hsparts _ ▸ h.strategy hw)
  obtain ⟨t, ht⟩ := exists_shown (writable_part (writable_section hspec hstrategy) "type")
  simp [checkStrategy, hus, field_map, ok_bind, ht]

/-- The revision that is running is the one wanted, or the failure says why not. -/
lemma checkRevision_raises (hw : w = .deployment) {revision : Int}
    (hrevision : Decimal.tooLong revision = false) (name : Text) :
    Raises Own (checkRevision (.map es) name revision) := by
  obtain ⟨ms, hms, hmetadata, hmparts⟩ := exists_section h.metadata
  obtain ⟨as, has, hannotations, -⟩ := exists_section (hmparts _ ▸ h.annotations hw)
  obtain ⟨t, ht⟩ : ∃ t, (Value.lookup revisionKey as).getD (.str []) = .str t := by
    cases hrunning : Value.lookup revisionKey as with
    | none => exact ⟨[], rfl⟩
    | some v =>
      obtain rfl | has := hannotations
      · cases hrunning
      · exact h.revision hw as v (by rw [← has, hmparts]) hrunning
  simp only [checkRevision, hms, has, ok_bind, ht, toInteger]
  cases hrunning : Literal.integer t with
  | error e => simp [Except.mapError]
  | ok running =>
    obtain ⟨r, hr⟩ := exists_write hrevision
    obtain ⟨r', hr'⟩ := exists_write (Literal.tooLong_integer hrunning)
    simp [Except.mapError, hr, hr', ok_bind]

lemma exists_conditions (hw : w = .deployment) {ts : List (Text × Value)}
    (htparts : ∀ key, part key (.map ts) = part key (part "status" (.map es))) :
    ∃ cs : List (List (Text × Value)),
      Rollout.conditions (part "conditions" (.map ts)) = .ok (cs.map .map) := by
  rw [htparts]
  obtain hblank | ⟨cs, hcs⟩ := h.conditions hw
  · exact ⟨[], by simp [Rollout.conditions, hblank]⟩
  · rw [hcs]
    cases cs with
    | nil => exact ⟨[], rfl⟩
    | cons c cs => exact ⟨c :: cs, rfl⟩

lemma exists_counter {ts : List (Text × Value)} (hstatus : (Value.map ts).Writable)
    (htparts : ∀ key, part key (.map ts) = part key (part "status" (.map es))) (key : Text)
    (hkey : key ∈ counters w) :
    ∃ n : Nat, countOf key (.map ts) = .ok n ∧ Decimal.tooLong n = false :=
  exists_countOf key hstatus (htparts key ▸ h.counted key hkey)

end WellFormed

/-! ### Workloads -/

/-- What is wanted can be compared with a counter and lessened by one. -/
lemma wanted_raises_own {v : Value} (hv : v = .null ∨ ∃ n : Nat, v = .int n) (hv' : v.Writable)
    {k : Nat} (hk : Decimal.tooLong k = false) (hnull : (!v.isNull) = true) :
    ∃ w, minus v k = .ok w ∧ Raises Own (isBelow k v) ∧ (∀ n, Raises Own (isBelow n w)) ∧
      Raises Own (shown w) := by
  obtain rfl | ⟨n, rfl⟩ := hv
  · cases hnull
  · obtain ⟨t, ht⟩ := exists_shown (v := .int (n - k))
      (Value.writable_int_iff.mpr (Decimal.tooLong_sub (hv' n .whole) hk))
    exact ⟨.int (n - k), rfl, .ok _, fun _ => .ok _, ht ▸ .ok t⟩

/-- With a partition, what is wanted is the replicas that it leaves. -/
lemma partitioned_raises_own {status replicas limit : Value} {updated k : Nat}
    (hupdated : countOf "updatedReplicas" status = .ok updated)
    (hupdated' : Decimal.tooLong updated = false) (hlimit : count limit = .ok k)
    (hlimit' : Decimal.tooLong k = false)
    (hreplicas : replicas = .null ∨ ∃ n : Nat, replicas = .int n)
    (hreplicas' : replicas.Writable) : Raises Own (partitioned status replicas limit) := by
  have hwrite := write_raises_own hupdated'
  have hwanted := wanted_raises_own hreplicas hreplicas' hlimit'
  simp only [partitioned, hupdated, hlimit, ok_bind]
  split
  · next hnull =>
    obtain ⟨wanted, hminus, -, hbelow, hshown⟩ := hwanted hnull
    simp only [hminus, ok_bind, Raises.ite_iff, Raises.bind_iff, Raises.pure, hwrite, hbelow,
      hshown, implies_true, and_true]
  · simp only [Raises.bind_iff, Raises.pure, hwrite, implies_true, and_true]

section Workloads

variable {es : List (Text × Value)} (hes : (Value.map es).Writable)
include hes

lemma deployment_raises_own (h : WellFormed (.map es) .deployment) {revision : Int}
    (hrevision : Decimal.tooLong revision = false) :
    Raises Own (deployment (.map es) revision) := by
  obtain ⟨n, hn⟩ := exists_name hes h.metadata
  obtain ⟨ss, hss, hspec, hsparts⟩ := exists_section h.spec
  obtain ⟨ts, hts, hstatus, htparts⟩ := exists_section h.status
  obtain ⟨b, hb⟩ := h.exists_observed hes
  obtain ⟨cs, hcs⟩ := h.exists_conditions rfl htparts
  have hcounter := h.exists_counter (writable_section hes hstatus) htparts
  obtain ⟨updated, hupdated, hupdated'⟩ := hcounter "updatedReplicas" (by simp [counters])
  obtain ⟨replicas, hreplicas, hreplicas'⟩ := hcounter "replicas" (by simp [counters])
  obtain ⟨available, havailable, havailable'⟩ := hcounter "availableReplicas" (by simp [counters])
  obtain ⟨wanted, hwanted, hwanted'⟩ := exists_countOf "replicas"
    (writable_section hes hspec) (hsparts _ ▸ h.wanted)
  rw [countOf, field_map, ok_bind] at hwanted
  simp only [deployment, hn, hss, hts, hb, field_map, hcs, hupdated, hreplicas, havailable,
    hwanted, ok_bind]
  -- All that is left are the checks, the comparisons, and the numbers in the messages.
  simp only [Raises.ite_iff, Raises.bind_iff, Raises.pure, h.checkRevision_raises rfl hrevision,
    checkConditions_raises_own, write_raises_own hupdated', write_raises_own hwanted',
    write_raises_own (Decimal.tooLong_sub hreplicas' hupdated'), write_raises_own havailable',
    implies_true, and_true]

lemma daemonSet_raises_own (h : WellFormed (.map es) .daemonSet) :
    Raises Own (daemonSet (.map es)) := by
  obtain ⟨n, hn⟩ := exists_name hes h.metadata
  obtain ⟨ss, hss, hspec, hsparts⟩ := exists_section h.spec
  obtain ⟨ts, hts, hstatus, htparts⟩ := exists_section h.status
  obtain ⟨b, hb⟩ := h.exists_observed hes
  have hcounter := h.exists_counter (writable_section hes hstatus) htparts
  obtain ⟨desired, hdesired, hdesired'⟩ := hcounter "desiredNumberScheduled" (by simp [counters])
  obtain ⟨updated, hupdated, hupdated'⟩ := hcounter "updatedNumberScheduled" (by simp [counters])
  obtain ⟨available, havailable, havailable'⟩ := hcounter "numberAvailable" (by simp [counters])
  have hstrategy := h.checkStrategy_raises (by decide) (writable_section hes hspec) hsparts
  simp only [daemonSet, hn, hss, hts, hb, hdesired, hupdated, havailable, ok_bind]
  simp only [Raises.ite_iff, Raises.bind_iff, Raises.pure, hstrategy,
    write_raises_own hdesired', write_raises_own hupdated', write_raises_own havailable',
    implies_true, and_true]

lemma statefulSet_raises_own (h : WellFormed (.map es) .statefulSet) :
    Raises Own (statefulSet (.map es)) := by
  obtain ⟨ss, hss, hspec, hsparts⟩ := exists_section h.spec
  obtain ⟨ts, hts, hstatus, htparts⟩ := exists_section h.status
  obtain ⟨b, hb⟩ := h.exists_observed hes
  have hcounter := h.exists_counter (writable_section hes hstatus) htparts
  obtain ⟨seen, hseen, -⟩ := hcounter "observedGeneration" (by simp [counters])
  obtain ⟨ready, hready, hready'⟩ := hcounter "readyReplicas" (by simp [counters])
  obtain ⟨updated, hupdated, hupdated'⟩ := hcounter "updatedReplicas" (by simp [counters])
  obtain ⟨current, hcurrent, hcurrent'⟩ := hcounter "currentReplicas" (by simp [counters])
  have hstrategy := h.checkStrategy_raises (by decide) (writable_section hes hspec) hsparts
  obtain ⟨us, hus, hupdate, huparts⟩ := exists_section (hsparts _ ▸ h.strategy (by decide))
  obtain ⟨rs, hrs, hrolling, hrparts⟩ :=
    exists_section (huparts _ ▸ hsparts _ ▸ h.rolling rfl)
  obtain ⟨k, hk, hk'⟩ := exists_countOf "partition"
    (writable_section (writable_section (writable_section hes hspec) hupdate) hrolling)
    (hrparts _ ▸ huparts _ ▸ hsparts _ ▸ h.partition rfl)
  rw [countOf, field_map, ok_bind] at hk
  have hreplicas := writable_part (writable_section hes hspec) "replicas"
  have hwanted : part "replicas" (.map ss) = .null ∨
      ∃ n : Nat, part "replicas" (.map ss) = .int n := hsparts _ ▸ h.wanted
  have hbelow := wanted_raises_own hwanted hreplicas hready'
  have hpartitioned := partitioned_raises_own hupdated hupdated' hk hk' hwanted hreplicas
  have hrevision : ∀ key, Raises Own (shown (part key (.map ts))) := fun key => by
    obtain ⟨t, ht⟩ := exists_shown (writable_part (writable_section hes hstatus) key)
    exact ht ▸ .ok t
  simp only [statefulSet, hss, hts, hb, hseen, hready, hupdated, hcurrent, hus, hrs, field_map,
    ok_bind]
  simp only [Raises.ite_iff, Raises.bind_iff, Raises.pure, hstrategy, hpartitioned, hrevision,
    write_raises_own hupdated', write_raises_own hcurrent', implies_true, and_true, true_and]
  rintro - - - - hnull
  obtain ⟨left, hleft, hready, -, hshown⟩ := hbelow hnull
  simp [hleft, hready, hshown]

/-- Of well-formed objects, a rollout is judged or said to have failed. -/
theorem status_raises_own {w : Workload} (h : WellFormed (.map es) w) {revision : Int}
    (hrevision : Decimal.tooLong revision = false) : Raises Own (status w (.map es) revision) := by
  cases w with
  | deployment => exact deployment_raises_own hes h hrevision
  | daemonSet => exact daemonSet_raises_own hes h
  | statefulSet => exact statefulSet_raises_own hes h

/-- Every object that is a map has a group and a kind. -/
lemma exists_groupKind : ∃ group kind, groupKind (.map es) = .ok (group, kind) := by
  have hshown : ∀ key, ∃ t,
      (if (part key (.map es)).isBlank then .ok [] else shown (part key (.map es))) = .ok t :=
    fun key => by
      split
      · exact ⟨[], rfl⟩
      · exact exists_shown (writable_part hes key)
  obtain ⟨version, hversion⟩ := hshown "apiVersion"
  obtain ⟨kind, hkind⟩ := hshown "kind"
  simp only [groupKind, field_map, hversion, hkind, ok_bind]
  exact ⟨_, _, rfl⟩

end Workloads

end Rollout

end Settle

import Settle.Proofs.Raises
import Settle.Proofs.Value.Occurs
import Settle.Wait.Target

/-!
# What a read decides

A read decides a wait for a state if it fails, or if its snapshot shows the state or cannot be
judged. Judging a snapshot has few kinds of failures (`Failure.OfSnapshot`), and does not abort a
wait, since rules do that.
-/

namespace Settle

namespace Strategy

/-- How a wait for a state ends with what a read has brought. -/
inductive Decides (s : Strategy) : Except Failure Value → Except Failure Unit → Prop where
  /-- The read has failed. -/
  | failed (e : Failure) : s.Decides (.error e) (.error e)
  /-- The snapshot makes no sense. -/
  | faulty {v : Value} {e : Failure} (h : s.isDone v = .error e) : s.Decides (.ok v) (.error e)
  /-- The snapshot shows the state. -/
  | done {v : Value} (h : s.isDone v = .ok true) : s.Decides (.ok v) (.ok ())

lemma Decides.exists_done {s : Strategy} {result : Except Failure Value}
    (h : s.Decides result (.ok ())) : ∃ v, result = .ok v ∧ s.isDone v = .ok true := by
  obtain ⟨-⟩ | ⟨-⟩ | hdone := h
  exact ⟨_, rfl, hdone⟩

end Strategy

namespace Target

lemma judge_state_eq_some_iff {s : Strategy} {result : Except Failure Value}
    {o : Except Failure Unit} :
    (Target.state s).judge result = some o ↔ s.Decides result o := by
  constructor
  · intro h
    cases result with
    | error e =>
      cases h
      exact .failed e
    | ok v =>
      cases hdone : s.isDone v with
      | error e =>
        simp only [judge, hdone, Option.some.injEq] at h
        exact h ▸ .faulty hdone
      | ok b =>
        cases b with
        | false => simp [judge, hdone] at h
        | true =>
          simp only [judge, hdone, Option.some.injEq] at h
          exact h ▸ .done hdone
  · intro h
    cases h with
    | failed e => rfl
    | faulty h => simp [judge, h]
    | done h => simp [judge, h]

lemma judge_state_eq_none_iff {s : Strategy} {result : Except Failure Value} :
    (Target.state s).judge result = none ↔ ∀ o, ¬ s.Decides result o := by
  simp only [← judge_state_eq_some_iff, Option.eq_none_iff_forall_ne_some, ne_eq]

end Target

/-! ### Failures of judging -/

namespace Failure

/-- The failures that judging a snapshot may have. -/
def OfSnapshot : Failure → Prop
  | .unmatchable _ | .absent _ | .misshapen .. | .rollout _ | .invalid _ | .wrongType
  | .notMap | .overflow => True
  | _ => False

lemma OfSnapshot.ne_aborted {e : Failure} (h : e.OfSnapshot) (a : Abort) : e ≠ .aborted a := by
  rintro rfl
  exact h

end Failure

open Failure (OfSnapshot)

/-! ### Fields -/

/-- Writing an integer of a value fails in some way only. -/
def WritingRaises (P : Failure → Prop) (v : Value) : Prop :=
  ∀ n, Value.Occurs (.int n) v → Raises P ((Decimal.write n).mapError Failure.invalid)

namespace WritingRaises

variable {P : Failure → Prop}

lemma ofSnapshot (v : Value) : WritingRaises OfSnapshot v := fun _ _ => .mapError fun _ => trivial

lemma of_writable {v : Value} (h : v.Writable) : WritingRaises P v := fun n hn => by
  rw [Decimal.write, h n hn, if_neg Bool.false_ne_true]
  exact .ok _

lemma of_occurs {v w : Value} (h : WritingRaises P v) (hw : Value.Occurs w v) :
    WritingRaises P w := fun n hn => h n (hn.trans hw)

end WritingRaises

namespace Shape

variable {P : Failure → Prop}

lemma convertString_raises (hshape : ∀ path detail, P (.misshapen path detail)) (hints : Hints)
    (path : Text) {v : Value} (hv : WritingRaises P v) :
    Raises P (convertString hints path v) := by
  cases v with
  | int n => simp [convertString, hv n .whole, mismatch, hshape]
  | _ => simp [convertString, mismatch, hshape]

mutual

/-- Conversion fails where a value has another shape, or where an integer cannot be written. -/
lemma convert_raises (hshape : ∀ path detail, P (.misshapen path detail)) (hints : Hints) :
    ∀ (path : Text) (s : Shape) {v : Value}, WritingRaises P v → Raises P (s.convert hints path v)
  | path, .any, v, hv | path, .string, v, hv | path, .number, v, hv | path, .bool, v, hv => by
    have hstring := convertString_raises hshape hints path hv
    cases v <;> simp [convert, hstring, convertNumber, convertBool, mismatch, hshape]
  | path, .list item, v, hv => by
    cases v with
    | list vs =>
      have hitems : Raises P (vs.mapM (convert hints path item)) := .mapM fun v hmem =>
        convert_raises hshape hints path item (hv.of_occurs (.item hmem .whole))
      simp [convert, hitems]
    | _ => simp [convert, mismatch, hshape]
  | path, .map entry, v, hv => by
    cases v with
    | map es =>
      have hentries : Raises P (es.mapM fun e => (convert hints path entry e.2).map (e.1, ·)) :=
        .mapM fun e hmem =>
          Raises.map_iff.mpr
            (convert_raises hshape hints path entry (hv.of_occurs (.entry hmem .whole)))
      simp [convert, hentries]
    | _ => simp [convert, mismatch, hshape]
  | path, .object as, v, hv => by
    cases v with
    | map es => simp [convert, convertAttributes_raises hshape hints path as hv]
    | _ => simp [convert, mismatch, hshape]

lemma convertAttributes_raises (hshape : ∀ path detail, P (.misshapen path detail))
    (hints : Hints) : ∀ (path : Text) (as : List (Text × Shape)) {es : List (Text × Value)},
      WritingRaises P (.map es) → Raises P (convertAttributes hints path as es)
  | _,    [],                  _,  _  => by simp [convertAttributes]
  | path, (name, shape) :: as, es, hv => by
    have hrest := convertAttributes_raises hshape hints path as hv
    cases h : Value.lookup name es with
    | none => simpa [convertAttributes, h] using hrest
    | some v =>
      have hfound := hv.of_occurs (.entry (Value.mem_of_lookup h) .whole)
      have hshaped := convert_raises hshape hints (join path name) shape hfound
      simp [convertAttributes, h, hshaped, hrest]

end

end Shape

namespace Strategy

lemma allMatch_raises {P : Failure → Prop} (habsent : ∀ path, P (.absent path)) (known : Bool)
    {tree : Value} {ms : List Matcher}
    (haccepts : ∀ m ∈ ms, ∀ v, m.path.walk tree = some v → Raises P (m.accepts v)) :
    Raises P (allMatch known tree ms) := by
  induction ms with
  | nil => simp [allMatch]
  | cons m ms ih =>
    have hrest := ih fun m' hm' => haccepts m' (List.mem_cons_of_mem m hm')
    simp only [allMatch]
    split
    · cases known <;> simp [habsent]
    · cases known <;> simp [habsent]
    · next v _ hwalk => simp [haccepts m List.mem_cons_self v hwalk, hrest]

end Strategy

/-! ### Rollouts -/

namespace Rollout

@[simp] lemma field_raises (name : Text) (v : Value) : Raises OfSnapshot (field name v) := by
  cases v <;> simp [field, OfSnapshot]

@[simp] lemma section?_raises (name : Text) (v : Value) : Raises OfSnapshot (section? name v) := by
  simp [section?]

@[simp] lemma toInteger_raises (v : Value) : Raises OfSnapshot (toInteger v) := by
  cases v with
  | str t => exact .mapError fun _ => trivial
  | float x => cases x <;> simp [toInteger, OfSnapshot]
  | _ => simp [toInteger, OfSnapshot]

@[simp] lemma count_raises (v : Value) : Raises OfSnapshot (count v) := by
  simp [count]

@[simp] lemma countOf_raises (name : Text) (v : Value) : Raises OfSnapshot (countOf name v) := by
  simp [countOf]

@[simp] lemma write_raises (n : Int) : Raises OfSnapshot (write n) := .mapError fun _ => trivial

@[simp] lemma shown_raises (v : Value) : Raises OfSnapshot (shown v) := .mapError fun _ => trivial

@[simp] lemma isBelow_raises (n : Int) (v : Value) : Raises OfSnapshot (isBelow n v) := by
  cases v with
  | float x => cases x <;> exact .ok _
  | _ => simp [isBelow, OfSnapshot]

@[simp] lemma minus_raises (v : Value) (n : Int) : Raises OfSnapshot (minus v n) := by
  cases v with
  | float x => cases h : Binary64.ofInt? n <;> simp [minus, h, OfSnapshot]
  | _ => simp [minus, OfSnapshot]

@[simp] lemma groupKind_raises (object : Value) : Raises OfSnapshot (groupKind object) := by
  simp [groupKind]

@[simp] lemma workload_raises (group kind : Text) : Raises OfSnapshot (workload group kind) := by
  cases h : workload? group kind <;> simp [workload, h, OfSnapshot]

@[simp] lemma name_raises (object : Value) : Raises OfSnapshot (name object) := by
  refine Raises.bind_iff.mpr ⟨by simp, fun v _ => ?_⟩
  cases v <;> simp [OfSnapshot]

@[simp] lemma observed_raises (object : Value) : Raises OfSnapshot (observed object) := by
  simp [observed]

@[simp] lemma checkStrategy_raises (spec : Value) : Raises OfSnapshot (checkStrategy spec) := by
  simp [checkStrategy, OfSnapshot]

lemma checkRevision_raises (object : Value) (name : Text) (revision : Int) :
    Raises OfSnapshot (checkRevision object name revision) := by
  simp only [checkRevision, Raises.bind_iff, section?_raises, true_and]
  intro _ _ annotations _
  cases annotations with
  | map entries =>
    refine Raises.bind_iff.mpr ⟨.ok _, fun written _ => ?_⟩
    have hwritten := toInteger_raises written
    split
    · simp [OfSnapshot]
    · next e _ h => exact Raises.error_iff.mpr (hwritten e h)
    · simp [OfSnapshot]
  | _ => simp [OfSnapshot]

lemma isFailed_raises (condition : Value) : Raises OfSnapshot (isFailed condition) := by
  simp [isFailed]

lemma conditions_raises (v : Value) : Raises OfSnapshot (conditions v) := by
  cases v <;> simp [conditions, OfSnapshot]

lemma checkConditions_raises (name : Text) (cs : List Value) :
    Raises OfSnapshot (checkConditions name cs) := by
  induction cs with
  | nil => simp [checkConditions]
  | cons c cs ih => simp [checkConditions, isFailed_raises, ih, OfSnapshot]

lemma deployment_raises (object : Value) (revision : Int) :
    Raises OfSnapshot (deployment object revision) := by
  simp [deployment, checkRevision_raises, checkConditions_raises, conditions_raises]

lemma daemonSet_raises (object : Value) : Raises OfSnapshot (daemonSet object) := by
  simp [daemonSet]

lemma statefulSet_raises (object : Value) : Raises OfSnapshot (statefulSet object) := by
  simp [statefulSet, partitioned]

end Rollout

/-! ### All strategies -/

namespace Strategy

lemma strip_raises (object : Value) : Raises OfSnapshot (strip object) := by
  cases object <;> simp [strip, OfSnapshot]

lemma allHold_raises (wanted : List Condition) (object : Value) :
    Raises OfSnapshot (allHold wanted object) := by
  cases object with
  | map entries =>
    rw [allHold]
    split
    · split <;> exact .ok _
    · exact .ok _
  | _ => simp [allHold, OfSnapshot]

lemma rolledOut_raises (revision : Int) (object : Value) :
    Raises OfSnapshot (rolledOut revision object) := by
  have hstatus : ∀ w, Raises OfSnapshot (Rollout.status w object revision) := fun w => by
    cases w with
    | deployment => exact Rollout.deployment_raises object revision
    | daemonSet => exact Rollout.daemonSet_raises object
    | statefulSet => exact Rollout.statefulSet_raises object
  simp [rolledOut, hstatus]

theorem isDone_raises (s : Strategy) (object : Value) : Raises OfSnapshot (s.isDone object) := by
  cases s with
  | fields matchers shape? hints =>
    have haccepts : ∀ (m : Matcher) v, Raises OfSnapshot (m.accepts v) := fun m v => by
      refine Raises.map_iff.mpr (.mapError fun e => ?_)
      cases e <;> trivial
    have hconvert : ∀ s v, Raises OfSnapshot (Shape.convert hints [] s v) := fun s v =>
      Shape.convert_raises (fun _ _ => trivial) hints [] s (.ofSnapshot v)
    have hmatch : ∀ known tree, Raises OfSnapshot (allMatch known tree matchers) :=
      fun known tree => allMatch_raises (fun _ => trivial) known fun m _ v _ => haccepts m v
    simp [isDone, strip_raises, hconvert, hmatch]
  | conditions wanted => exact allHold_raises wanted object
  | rollout revision => exact rolledOut_raises revision object

/-- Only a read itself can bring an abort. -/
lemma Decides.eq_of_aborted {s : Strategy} {result : Except Failure Value} {a : Abort}
    (h : s.Decides result (.error (.aborted a))) : result = .error (.aborted a) := by
  obtain - | hfaulty := h
  · rfl
  · exact absurd rfl ((s.isDone_raises _ _ hfaulty).ne_aborted a)

end Strategy

end Settle

import Settle.Proofs.Rollout.WellFormed
import Settle.Proofs.Strategy.Decides
import Settle.Proofs.Strategy.Fields

/-!
# Failures of judging a snapshot

Waits for fields and for conditions have a result on every object, or fail for a reason of their
own. A wait for a rollout need not: the parts of a workload are read as they come, and one of
another type than its kind has makes the reading itself fail.
-/

namespace Settle

open Failure (Own OfSnapshot)

namespace Failure

/-- The failures of reading a part of another type. -/
def OfMalformed : Failure → Prop
  | .invalid _ | .wrongType | .notMap | .overflow => True
  | _ => False

lemma OfSnapshot.own_or_ofMalformed {e : Failure} (h : e.OfSnapshot) : e.Own ∨ e.OfMalformed := by
  cases e with
  | unmatchable | absent | misshapen | rollout => exact Or.inl rfl
  | invalid | wrongType | notMap | overflow => exact Or.inr trivial
  | _ => exact h.elim

end Failure

namespace Strategy

variable {es : List (Text × Value)}

lemma accepts_raises_own (m : Matcher) {v : Value} (h : v.IsScalar → v.Writable) :
    Raises Own (m.accepts v) := by
  refine Raises.map_iff.mpr ?_
  cases htext : v.scalarText .plain with
  | ok t => exact .ok t
  | error e =>
    cases e with
    | notScalar name => exact Raises.error_iff.mpr rfl
    | tooLong =>
      refine absurd htext (Value.Writable.scalarText_ne_tooLong (h ?_) .plain)
      cases v with
      | null | list | map => cases htext
      | str | bool | int | float => trivial

/-- Fields are looked up in the shape that the object has been converted to. -/
lemma fields_raises_own (hes : (Value.map es).Writable) (matchers : List Matcher)
    (shape? : Option Shape) (hints : Hints) :
    Raises Own (isDone (.map es) (.fields matchers shape? hints)) := by
  obtain ⟨stripped, hstrip⟩ : ∃ stripped, strip (.map es) = .ok stripped := ⟨_, rfl⟩
  have hstripped := writable_of_strip hes hstrip
  rw [isDone, hstrip, ok_bind]
  refine Raises.bind_iff.mpr ⟨Shape.convert_raises (fun _ _ => rfl) hints [] _
    (.of_writable hstripped), fun tree htree => ?_⟩
  refine allMatch_raises (fun _ => rfl) _ fun m _ v hv => accepts_raises_own m fun hscalar => ?_
  exact Shape.writable_of_walk_converted hstripped htree hv hscalar

lemma conditions_raises_own (wanted : List Condition) : Raises Own (allHold wanted (.map es)) := by
  rw [allHold]
  split
  · split <;> exact .ok _
  · exact .ok _

/-- A kind that is no workload is reported as such. -/
lemma rollout_raises_own (hes : (Value.map es).Writable) {revision : Int}
    (hrevision : Decimal.tooLong revision = false)
    (h : ∀ group kind w, Rollout.groupKind (.map es) = .ok (group, kind) →
      Rollout.workload? group kind = some w → Rollout.WellFormed (.map es) w) :
    Raises Own (rolledOut revision (.map es)) := by
  obtain ⟨group, kind, hkind⟩ := Rollout.exists_groupKind hes
  rw [rolledOut, hkind, ok_bind]
  cases hw : Rollout.workload? group kind with
  | none => simp [Rollout.workload, hw]
  | some w =>
    have hstatus := Rollout.status_raises_own hes (h group kind w hkind hw) hrevision
    simp [Rollout.workload, hw, ok_bind, hstatus]

/-- On an object whose integers can be written, a failure is one of the operation's own, unless a
rollout is judged of a workload that has a part of another type than its kind has, or against a
revision that cannot be written. -/
theorem failure_own_or_malformed (s : Strategy) (hes : (Value.map es).Writable) {e : Failure}
    (h : s.isDone (.map es) = .error e) :
    e.Own ∨ e.OfMalformed ∧ ∃ revision, s = .rollout revision ∧
      (Decimal.tooLong revision = true ∨ ∃ group kind w,
        Rollout.groupKind (.map es) = .ok (group, kind) ∧
        Rollout.workload? group kind = some w ∧ ¬ Rollout.WellFormed (.map es) w) := by
  cases s with
  | fields matchers shape? hints => exact Or.inl (fields_raises_own hes _ _ _ e h)
  | conditions wanted => exact Or.inl (conditions_raises_own wanted e h)
  | rollout revision =>
    by_cases hmalformed : Decimal.tooLong revision = true ∨ ∃ group kind w,
        Rollout.groupKind (.map es) = .ok (group, kind) ∧
        Rollout.workload? group kind = some w ∧ ¬ Rollout.WellFormed (.map es) w
    · exact (isDone_raises _ _ e h).own_or_ofMalformed.imp_right fun he =>
        ⟨he, revision, rfl, hmalformed⟩
    · obtain ⟨hrevision, hwellFormed⟩ := not_or.mp hmalformed
      refine Or.inl (rollout_raises_own hes (eq_false_of_ne_true hrevision) ?_ e h)
      intro group kind w hkind hw
      exact not_not.mp fun hnot => hwellFormed ⟨group, kind, w, hkind, hw, hnot⟩

/-- A deployment whose annotation of the running revision is null. -/
def bareRevision : Value :=
  .map [("apiVersion", .str "apps/v1"), ("kind", .str "Deployment"),
    ("metadata", .map [("name", .str "web"),
      ("annotations", .map [(Rollout.revisionKey, .null)])])]

/-- A deployment with some of the parts that are judged. -/
def secondRevision : Value :=
  .map [("apiVersion", .str "apps/v1"), ("kind", .str "Deployment"),
    ("metadata", .map [("annotations", .map [(Rollout.revisionKey, .str "2")])]),
    ("status", .map [("updatedReplicas", .int 3), ("replicas", .str "3"),
      ("conditions", .list [.map []])])]

lemma groupKind_bareRevision : Rollout.groupKind bareRevision
    = .ok (Text.ofString "apps", Text.ofString "Deployment") := by decide +kernel

lemma groupKind_secondRevision : Rollout.groupKind secondRevision
    = .ok (Text.ofString "apps", Text.ofString "Deployment") := by decide +kernel

lemma bareRevision_writable : bareRevision.Writable := by simp [bareRevision]

lemma secondRevision_writable : secondRevision.Writable := by
  have hthree : Decimal.tooLong 3 = false := by decide +kernel
  simp [secondRevision, hthree]

lemma secondRevision_wellFormed : Rollout.WellFormed secondRevision .deployment where
  metadata := Or.inr ⟨_, rfl⟩
  generation := ⟨0, rfl⟩
  annotations _ := Or.inr ⟨_, rfl⟩
  revision _ es v hes hv := by
    cases hes
    cases hv
    exact ⟨_, rfl⟩
  spec := Or.inl rfl
  wanted := ⟨0, rfl⟩
  strategy h := absurd rfl h
  rolling h := by cases h
  partition h := by cases h
  status := Or.inr ⟨_, rfl⟩
  counted name h := by
    simp only [Rollout.counters, List.mem_cons, List.not_mem_nil, or_false] at h
    obtain rfl | rfl | rfl | rfl := h
    exacts [⟨0, rfl⟩, ⟨3, rfl⟩, ⟨3, rfl⟩, ⟨0, rfl⟩]
  conditions _ := Or.inr ⟨[[]], rfl⟩

lemma isDone_bareRevision : isDone bareRevision (.rollout 1) = .error .wrongType := by
  decide +kernel

theorem revisions_fail_by_parts :
    (∀ e, isDone secondRevision (.rollout 1) = .error e → e.Own) ∧
      ¬ Rollout.WellFormed bareRevision .deployment := by
  have hone : Decimal.tooLong 1 = false := by decide +kernel
  constructor
  · intro e he
    obtain h | ⟨-, revision, hs, h | ⟨group, kind, w, hkind, hw, h⟩⟩ :=
      failure_own_or_malformed (.rollout 1) secondRevision_writable he
    · exact h
    · cases hs
      exact absurd hone (by simp [h])
    · cases hkind.symm.trans groupKind_secondRevision
      cases hw
      exact absurd secondRevision_wellFormed h
  · obtain h | ⟨-, revision, hs, h | ⟨group, kind, w, hkind, hw, h⟩⟩ :=
      failure_own_or_malformed (.rollout 1) bareRevision_writable isDone_bareRevision
    · cases h
    · cases hs
      exact absurd hone (by simp [h])
    · cases hkind.symm.trans groupKind_bareRevision
      cases hw
      exact h

/-- Not every failure is the operation's own: a revision that is null cannot be read. -/
theorem bareRevision_fails_otherwise :
    ¬ ∀ (s : Strategy) (es : List (Text × Value)) (e : Failure), (Value.map es).Writable →
      s.isDone (.map es) = .error e → e.Own := by
  intro h
  have hown : Own .wrongType := h (.rollout 1) _ _ bareRevision_writable isDone_bareRevision
  cases hown

end Strategy

end Settle

import Settle.Proofs.Rule.FirstMatch
import Settle.Wait.Strategy

/-!
# Conditions to wait for and conditions to abort on

A wait for a condition and a rule about it read the same list in two ways: the wait takes the first
entry of the type and compares its status as data, and the rule takes any entry that is shown as
the type and the status sought. They agree on lists in which types and statuses are texts and no
type occurs twice.
-/

namespace Settle

/-! ### Entries of a type -/

/-- An item of the conditions is a map with this type. -/
def HasType (type : Text) (v : Value) : Prop :=
  ∃ entry, v = .map entry ∧ Value.lookup "type" entry = some (.str type)

/-- The types and statuses of conditions are texts where they are given, and no two conditions have
this type. -/
structure Orderly (type : Text) (items : List Value) : Prop where
  texts : ∀ entry, .map entry ∈ items → ∀ key ∈ [Text.ofString "type", Text.ofString "status"],
    ∀ v, Value.lookup key entry = some v → ∃ t, v = .str t
  once  : items.Pairwise fun v w => ¬ (HasType type v ∧ HasType type w)

namespace Strategy

lemma any_same_str_iff {v? : Option Value} {t : Text} :
    v?.any (·.same (.str t)) = true ↔ v? = some (.str t) := by
  cases v? with
  | none => simp
  | some v => simp [Value.same_str_iff]

section HasCondition

variable {w : Condition} {v : Value} {items : List Value}

/-- An entry of another type is passed over. -/
lemma hasCondition_cons_of_not_hasType (h : ¬ HasType w.type v) :
    hasCondition w (v :: items) = hasCondition w items := by
  cases v with
  | map entry =>
    rw [hasCondition, if_neg]
    intro hany
    exact h ⟨entry, rfl, any_same_str_iff.mp hany⟩
  | _ => rfl

/-- An entry of the type settles whether the condition holds. -/
lemma hasCondition_cons_of_type {entry : List (Text × Value)}
    (h : Value.lookup "type" entry = some (.str w.type)) :
    hasCondition w (.map entry :: items) = true ↔
      Value.lookup "status" entry = some (.str w.status) := by
  rw [hasCondition, if_pos (any_same_str_iff.mpr h), any_same_str_iff]

lemma hasCondition_append_of_not_hasType {before : List Value}
    (h : ∀ v ∈ before, ¬ HasType w.type v) :
    hasCondition w (before ++ items) = hasCondition w items := by
  induction before with
  | nil => rfl
  | cons v before ih =>
    rw [List.forall_mem_cons] at h
    rw [List.cons_append, hasCondition_cons_of_not_hasType h.1, ih h.2]

/-- A condition holds if the first entry of its type has its status. -/
lemma hasCondition_iff :
    hasCondition w items = true ↔ ∃ before entry behind,
      items = before ++ .map entry :: behind ∧ (∀ v ∈ before, ¬ HasType w.type v) ∧
        Value.lookup "type" entry = some (.str w.type) ∧
        Value.lookup "status" entry = some (.str w.status) := by
  constructor
  · intro h
    obtain hnone | ⟨before, v, behind, rfl, hbefore, entry, rfl, htype⟩ :=
      none_or_exists_first (HasType w.type) items
    · rw [← List.append_nil items, hasCondition_append_of_not_hasType hnone] at h
      cases h
    · rw [hasCondition_append_of_not_hasType hbefore, hasCondition_cons_of_type htype] at h
      exact ⟨before, entry, behind, rfl, hbefore, htype, h⟩
  · rintro ⟨before, entry, behind, rfl, hbefore, htype, hstatus⟩
    rw [hasCondition_append_of_not_hasType hbefore]
    exact (hasCondition_cons_of_type htype).mpr hstatus

end HasCondition

/-! ### Objects -/

section Object

variable {es : List (Text × Value)} {wanted : List Condition}

/-- The conditions of an object hold if they are a list with something in it in which each holds. -/
lemma allHold_eq_ok_true_iff :
    allHold wanted (.map es) = .ok true ↔ ∃ items,
      Rule.conditionsPath.walk (.map es) = some (.list items) ∧ items ≠ [] ∧
        ∀ w ∈ wanted, hasCondition w items = true := by
  rw [allHold, Rule.conditionsPath, Path.walk]
  simp only [Value.at?, Step.child?]
  cases hstatus : Value.lookup "status" es with
  | none => simp
  | some v =>
    cases v with
    | map status =>
      simp only [Option.bind_some]
      cases Value.lookup "conditions" status with
      | none => simp
      | some v =>
        cases v with
        | list items => cases items <;> simp
        | _ => simp
    | _ => simp

/-- Whether conditions hold can be told of every object. -/
lemma exists_allHold (es : List (Text × Value)) (wanted : List Condition) :
    ∃ b, allHold wanted (.map es) = .ok b := by
  rw [allHold]
  split
  · split <;> exact ⟨_, rfl⟩
  · exact ⟨_, rfl⟩

lemma ne_nil_of_hasCondition {w : Condition} {items : List Value}
    (h : hasCondition w items = true) : items ≠ [] := by
  rintro rfl
  cases h

/-- One condition holds exactly if it is in the list of conditions. -/
lemma allHold_singleton_iff {w : Condition} :
    allHold [w] (.map es) = .ok true ↔ ∃ items,
      Rule.conditionsPath.walk (.map es) = some (.list items) ∧ hasCondition w items = true := by
  rw [allHold_eq_ok_true_iff]
  constructor
  · rintro ⟨items, hwalk, -, hall⟩
    exact ⟨items, hwalk, hall w (by simp)⟩
  · rintro ⟨items, hwalk, h⟩
    exact ⟨items, hwalk, ne_nil_of_hasCondition h, by simpa using h⟩

/-- Several conditions hold exactly if each of them does, since all are sought in one list. -/
lemma allHold_iff_forall (h : wanted ≠ []) :
    allHold wanted (.map es) = .ok true ↔ ∀ w ∈ wanted, allHold [w] (.map es) = .ok true := by
  simp only [allHold_singleton_iff]
  rw [allHold_eq_ok_true_iff]
  constructor
  · rintro ⟨items, hwalk, -, hall⟩ w hw
    exact ⟨items, hwalk, hall w hw⟩
  · intro hall
    obtain ⟨first, hfirst⟩ := List.exists_mem_of_ne_nil wanted h
    obtain ⟨items, hwalk, hheld⟩ := hall first hfirst
    refine ⟨items, hwalk, ne_nil_of_hasCondition hheld, fun w hw => ?_⟩
    obtain ⟨items', hwalk', hw⟩ := hall w hw
    cases hwalk.symm.trans hwalk'
    exact hw

lemma allHold_perm {others : List Condition} (h : wanted.Perm others) :
    allHold wanted (.map es) = allHold others (.map es) := by
  have hiff : allHold wanted (.map es) = .ok true ↔ allHold others (.map es) = .ok true := by
    simp only [allHold_eq_ok_true_iff, h.mem_iff]
  obtain ⟨b, hb⟩ := exists_allHold es wanted
  obtain ⟨c, hc⟩ := exists_allHold es others
  rw [hb, hc] at hiff ⊢
  exact congrArg Except.ok (Bool.eq_iff_iff.mpr (by simpa using hiff))

end Object

/-! ### Rules -/

/-- A value that is a text where it is given, and is shown as a text that is not empty. -/
lemma eq_str_of_shownOr {v? : Option Value} {t : Text} (htext : ∀ v, v? = some v → ∃ u, v = .str u)
    (ht : t ≠ []) (h : Rule.shownOr [] v? = .ok t) : v? = some (.str t) := by
  cases v? with
  | none =>
    cases h
    exact absurd rfl ht
  | some v =>
    obtain ⟨u, rfl⟩ := htext v rfl
    cases h
    rfl

/-- A condition that holds is one that the rule of its type and status describes. -/
lemma exists_fits_of_hasCondition {w : Condition} {items : List Value}
    (h : hasCondition w items = true) : ∃ v ∈ items, Rule.Fits w.type w.status v := by
  obtain ⟨before, entry, behind, rfl, -, htype, hstatus⟩ := hasCondition_iff.mp h
  have htypeShown : Rule.shownOr [] (Value.lookup "type" entry) = .ok w.type := by
    rw [htype]
    rfl
  have hstatusShown : Rule.shownOr [] (Value.lookup "status" entry) = .ok w.status := by
    rw [hstatus]
    rfl
  exact ⟨.map entry, by simp, .entry htypeShown hstatusShown (Or.inr rfl) (Or.inr rfl)⟩

/-- Among orderly conditions, what a rule describes is the first and only one of the type. -/
lemma hasCondition_of_fits {type status : Text} {items : List Value} (hitems : Orderly type items)
    (htype : type ≠ []) (hstatus : status ≠ []) {v : Value} (hv : v ∈ items)
    (hfits : Rule.Fits type status v) : hasCondition ⟨type, status⟩ items = true := by
  obtain ⟨typeShown, statusShown, sameType, sameStatus⟩ := hfits
  next entry foundType foundStatus =>
  obtain rfl := sameType.resolve_left htype
  obtain rfl := sameStatus.resolve_left hstatus
  have hentry := hitems.texts entry hv
  have hfound := eq_str_of_shownOr (hentry "type" (by simp)) htype typeShown
  obtain ⟨before, behind, rfl⟩ := List.append_of_mem hv
  refine hasCondition_iff.mpr ⟨before, entry, behind, rfl, fun u hu hother => ?_, hfound,
    eq_str_of_shownOr (hentry "status" (by simp)) hstatus statusShown⟩
  have honce := (List.pairwise_append.mp hitems.once).2.2 u hu (.map entry) List.mem_cons_self
  exact honce ⟨hother, entry, rfl, hfound⟩

end Strategy

/-- A rule that is checked finds something exactly if it matches. -/
lemma Rule.exists_check_eq_some_iff {object : Value} (h : object.Writable) (resource : Text)
    (r : Rule) : (∃ a, r.check resource object = .ok (some a)) ↔ r.Matches object := by
  constructor
  · rintro ⟨a, ha⟩
    by_contra hnot
    rw [check_of_not_matches h hnot] at ha
    cases ha
  · intro hr
    obtain ⟨a, ha⟩ := hr.exists_reports h resource
    exact ⟨a, check_of_reports h ha⟩

namespace Strategy

/-- Whether conditions hold can be told of every object. Several conditions hold exactly if each of
them does alone, and their order does not count. If a condition holds, the rule of its type and
status matches; and a rule that matches, with a type and a status, describes a condition that holds
if the conditions of the object are orderly. -/
theorem condition_holds_iff_rule_matches (es : List (Text × Value)) :
    let done (wanted : List Condition) : Except Failure Bool :=
      isDone (.map es) (.conditions wanted)
    (∀ wanted, ∃ b, done wanted = .ok b) ∧
    (∀ wanted, wanted ≠ [] → (done wanted = .ok true ↔ ∀ w ∈ wanted, done [w] = .ok true)) ∧
    (∀ wanted others, wanted.Perm others → done wanted = done others) ∧
    ((Value.map es).Writable → ∀ type status resource message?,
      let fires : Prop :=
        ∃ a, (Rule.condition type status message?).check resource (.map es) = .ok (some a)
      (done [⟨type, status⟩] = .ok true → fires) ∧
      (type ≠ [] → status ≠ [] → (∀ items,
        Rule.conditionsPath.walk (.map es) = some (.list items) → Orderly type items) →
        fires → done [⟨type, status⟩] = .ok true)) := by
  intro done
  refine ⟨exists_allHold es, fun _ => allHold_iff_forall, fun _ _ => allHold_perm, ?_⟩
  intro hes type status resource message? fires
  have hfires : fires ↔ ∃ items,
      Rule.conditionsPath.walk (.map es) = some (.list items) ∧
        ∃ v ∈ items, Rule.Fits type status v := Rule.exists_check_eq_some_iff hes resource _
  have hdone : done [⟨type, status⟩] = .ok true ↔ ∃ items,
      Rule.conditionsPath.walk (.map es) = some (.list items) ∧
        hasCondition ⟨type, status⟩ items = true := allHold_singleton_iff
  rw [hfires, hdone]
  constructor
  · rintro ⟨items, hwalk, hheld⟩
    exact ⟨items, hwalk, exists_fits_of_hasCondition hheld⟩
  · rintro htype hstatus horderly ⟨items, hwalk, v, hv, hfits⟩
    exact ⟨items, hwalk, hasCondition_of_fits (horderly items hwalk) htype hstatus hv hfits⟩

/-! ### A workload that has halted -/

def haltedItems : List Value :=
  [.null, .map [("type", .str "Ready"), ("status", .str "True")],
    .map [("type", .str "Stalled"), ("status", .str "False"), ("reason", .null)]]

def haltedObject : Value := .map [("status", .map [("conditions", .list haltedItems)])]

lemma haltedItems_orderly : Orderly "Stalled" haltedItems where
  texts := by
    intro entry hentry key hkey v hv
    simp only [haltedItems, List.mem_cons, reduceCtorEq, Value.map.injEq, false_or,
      List.not_mem_nil, or_false] at hentry hkey
    obtain rfl | rfl := hentry <;> obtain rfl | rfl := hkey <;> cases hv <;> exact ⟨_, rfl⟩
  once := by
    have hready : ¬ HasType "Stalled" (.map [("type", .str "Ready"), ("status", .str "True")]) := by
      rintro ⟨entry, hentry, htype⟩
      cases hentry
      cases htype
    have hnull : ¬ HasType "Stalled" .null := by
      rintro ⟨entry, hentry, -⟩
      cases hentry
    simp [haltedItems, hready, hnull]

theorem haltedObject_read_alike :
    haltedObject.Writable ∧ Orderly "Stalled" haltedItems ∧
      (∃ a, (Rule.condition "Ready" "True" none).check "web" haltedObject = .ok (some a)) ∧
      isDone haltedObject (.conditions [⟨"Stalled", "False"⟩]) = .ok true := by
  have hwritable : haltedObject.Writable := by simp [haltedObject, haltedItems]
  have hreads := (condition_holds_iff_rule_matches
    [("status", .map [("conditions", .list haltedItems)])]).2.2.2 hwritable
  refine ⟨hwritable, haltedItems_orderly, (hreads "Ready" "True" "web" none).1 rfl, ?_⟩
  refine (hreads "Stalled" "False" "web" none).2 (by decide) (by decide) ?_ ⟨_, rfl⟩
  intro items hwalk
  cases hwalk
  exact haltedItems_orderly

end Strategy

end Settle

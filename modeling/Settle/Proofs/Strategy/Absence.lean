import Settle.Proofs.Rule.FirstMatch
import Settle.Proofs.Strategy.Fields

/-!
# Paths that lead nowhere

With a shape, every path has to lead to a value other than null. The matchers of a wait are asked
one after another, and the first one that does not accept what it finds settles the snapshot: it
fails if the path leads nowhere or the value has no text to match, and the state is not reached if
the value is another one. A path that leads nowhere is therefore reported in every order of the
matchers if no value is refused, and in some order it is hidden if one is.
-/

namespace Settle

namespace Matcher

variable {m : Matcher} {tree : Value}

/-- The path leads nowhere, or to null. -/
def Unresolved (tree : Value) (m : Matcher) : Prop :=
  ∀ v, m.path.walk tree = some v → v = .null

/-- There is a value at the path, and its text has what the pattern describes. -/
def Accepts (tree : Value) (m : Matcher) : Prop :=
  ∃ v, m.path.walk tree = some v ∧ v ≠ .null ∧ m.accepts v = .ok true

/-- There is a value at the path, and its text does not have what the pattern describes. -/
def Refuses (tree : Value) (m : Matcher) : Prop :=
  ∃ v, m.path.walk tree = some v ∧ v ≠ .null ∧ m.accepts v = .ok false

/-- The path leads nowhere, or there is no text to match of the value at the path. -/
inductive FailsWith (tree : Value) (m : Matcher) : Failure → Prop where
  | unresolved (nowhere : m.Unresolved tree) : FailsWith tree m (.absent m.path.text)
  | textless {v : Value} {e : Failure} (walk : m.path.walk tree = some v) (found : v ≠ .null)
      (fails : m.accepts v = .error e) : FailsWith tree m e

/-- What a matcher says of a tree in which its path has to lead somewhere. -/
def verdict (tree : Value) (m : Matcher) : Except Failure Bool :=
  match m.path.walk tree with
  | none | some .null => .error (.absent m.path.text)
  | some v            => m.accepts v

lemma verdict_of_unresolved (h : m.Unresolved tree) :
    m.verdict tree = .error (.absent m.path.text) := by
  unfold verdict
  cases hwalk : m.path.walk tree with
  | none => rfl
  | some v => rw [h v hwalk]

lemma verdict_of_walk {v : Value} (hwalk : m.path.walk tree = some v) (hv : v ≠ .null) :
    m.verdict tree = m.accepts v := by
  unfold verdict
  rw [hwalk]
  cases v with
  | null => exact absurd rfl hv
  | _ => rfl

lemma unresolved_or_walk (tree : Value) (m : Matcher) :
    m.Unresolved tree ∨ ∃ v, m.path.walk tree = some v ∧ v ≠ .null := by
  by_cases h : m.Unresolved tree
  · exact Or.inl h
  · unfold Unresolved at h
    push Not at h
    exact Or.inr h

lemma verdict_eq_ok_iff {b : Bool} :
    m.verdict tree = .ok b ↔
      ∃ v, m.path.walk tree = some v ∧ v ≠ .null ∧ m.accepts v = .ok b := by
  constructor
  · intro h
    rcases unresolved_or_walk tree m with hnone | ⟨v, hwalk, hv⟩
    · rw [verdict_of_unresolved hnone] at h
      cases h
    · rw [verdict_of_walk hwalk hv] at h
      exact ⟨v, hwalk, hv, h⟩
  · rintro ⟨v, hwalk, hv, h⟩
    rw [verdict_of_walk hwalk hv, h]

lemma verdict_eq_error_iff {e : Failure} : m.verdict tree = .error e ↔ m.FailsWith tree e := by
  constructor
  · intro h
    rcases unresolved_or_walk tree m with hnone | ⟨v, hwalk, hv⟩
    · rw [verdict_of_unresolved hnone] at h
      cases h
      exact .unresolved hnone
    · rw [verdict_of_walk hwalk hv] at h
      exact .textless hwalk hv h
  · intro h
    cases h with
    | unresolved hnone => exact verdict_of_unresolved hnone
    | textless hwalk hv hfails => rw [verdict_of_walk hwalk hv, hfails]

end Matcher

namespace Strategy

variable {tree : Value} {before behind ms : List Matcher} {m : Matcher}

/-- A matcher is asked only if those before it have accepted. -/
lemma allMatch_cons (tree : Value) (m : Matcher) (ms : List Matcher) :
    allMatch true tree (m :: ms)
      = m.verdict tree >>= fun b => if b then allMatch true tree ms else .ok false := by
  rcases Matcher.unresolved_or_walk tree m with hnone | ⟨v, hwalk, hv⟩
  · rw [Matcher.verdict_of_unresolved hnone, allMatch]
    cases hwalk : m.path.walk tree with
    | none => rfl
    | some v => rw [hnone v hwalk]; rfl
  · rw [Matcher.verdict_of_walk hwalk hv, allMatch, hwalk]
    cases v with
    | null => exact absurd rfl hv
    | _ => rfl

/-- The first matcher that does not accept settles the snapshot. -/
lemma allMatch_of_first (hbefore : ∀ x ∈ before, x.verdict tree = .ok true)
    (hm : m.verdict tree ≠ .ok true) :
    allMatch true tree (before ++ m :: behind) = m.verdict tree := by
  induction before with
  | nil =>
    rw [List.nil_append, allMatch_cons]
    cases hverdict : m.verdict tree with
    | error e => rfl
    | ok b =>
      cases b with
      | true => exact absurd hverdict hm
      | false => rfl
  | cons x before ih =>
    rw [List.forall_mem_cons] at hbefore
    rw [List.cons_append, allMatch_cons, hbefore.1]
    exact ih hbefore.2

lemma allMatch_of_forall (h : ∀ m ∈ ms, m.verdict tree = .ok true) :
    allMatch true tree ms = .ok true := by
  induction ms with
  | nil => rfl
  | cons m ms ih =>
    rw [List.forall_mem_cons] at h
    rw [allMatch_cons, h.1]
    exact ih h.2

/-- A snapshot is settled in one way or the other exactly if a matcher says so and those before it
have accepted. -/
lemma allMatch_eq_iff {r : Except Failure Bool} (hr : r ≠ .ok true) :
    allMatch true tree ms = r ↔ ∃ before m behind, ms = before ++ m :: behind ∧
      (∀ x ∈ before, x.Accepts tree) ∧ m.verdict tree = r := by
  have haccepts : ∀ x : Matcher, x.Accepts tree ↔ x.verdict tree = .ok true :=
    fun x => Matcher.verdict_eq_ok_iff.symm
  simp only [haccepts]
  constructor
  · intro h
    rcases none_or_exists_first (fun m => m.verdict tree ≠ .ok true) ms with
      hall | ⟨before, m, behind, rfl, hbefore, hm⟩
    · simp only [ne_eq, not_not] at hall
      exact absurd (h.symm.trans (allMatch_of_forall hall)) hr
    · simp only [ne_eq, not_not] at hbefore
      exact ⟨before, m, behind, rfl, hbefore, (allMatch_of_first hbefore hm).symm.trans h⟩
  · rintro ⟨before, m, behind, rfl, hbefore, rfl⟩
    exact allMatch_of_first hbefore hr

/-- A matcher that refuses can be put in front, and then it settles the snapshot. -/
lemma exists_perm_hidden_iff :
    (∃ l, l.Perm ms ∧ allMatch true tree l = .ok false) ↔ ∃ m ∈ ms, m.Refuses tree := by
  constructor
  · rintro ⟨l, hperm, hfalse⟩
    obtain ⟨before, m, behind, rfl, -, hm⟩ := (allMatch_eq_iff (by simp)).mp hfalse
    exact ⟨m, hperm.mem_iff.mp (by simp), Matcher.verdict_eq_ok_iff.mp hm⟩
  · rintro ⟨m, hm, hrefuses⟩
    obtain ⟨before, behind, rfl⟩ := List.append_of_mem hm
    refine ⟨m :: (before ++ behind), List.perm_middle.symm, ?_⟩
    rw [allMatch_cons, Matcher.verdict_eq_ok_iff.mpr hrefuses]
    rfl

/-- If a path leads nowhere, some matcher does not accept. -/
lemma allMatch_ne_true (h : ∃ m ∈ ms, m.Unresolved tree) : allMatch true tree ms ≠ .ok true := by
  obtain ⟨m, hm, hnone⟩ := h
  intro htrue
  obtain ⟨v, hwalk, haccepts⟩ := allMatch_eq_ok_true_iff.mp htrue m hm
  rw [hnone v hwalk] at haccepts
  cases haccepts

/-- With a shape and an object that is converted, a path that leads nowhere keeps the snapshot from
showing the state. The snapshot fails exactly if the first matcher that does not accept does, and
the state counts as not yet reached exactly if that matcher refuses a value. So the failure is
reported in every order of the matchers exactly if none of them refuses a value. -/
theorem absence_reported_unless_refused_before {object tree : Value} {shape : Shape}
    {hints : Hints} (hconvert : (strip object >>= shape.convert hints []) = .ok tree)
    {ms : List Matcher} (habsent : ∃ m ∈ ms, m.Unresolved tree) :
    let isDone (ms : List Matcher) : Except Failure Bool :=
      Strategy.isDone object (.fields ms (some shape) hints)
    isDone ms ≠ .ok true ∧
    (∀ e, isDone ms = .error e ↔ ∃ before m behind, ms = before ++ m :: behind ∧
      (∀ x ∈ before, x.Accepts tree) ∧ m.FailsWith tree e) ∧
    (isDone ms = .ok false ↔ ∃ before m behind, ms = before ++ m :: behind ∧
      (∀ x ∈ before, x.Accepts tree) ∧ m.Refuses tree) ∧
    ((∀ l, l.Perm ms → ∃ e, isDone l = .error e) ↔ ∀ m ∈ ms, ¬ m.Refuses tree) := by
  intro isDone
  have hdone : ∀ l, isDone l = allMatch true tree l := fun l => isDone_fields_eq hconvert l
  have hrefuses : ∀ m : Matcher, m.Refuses tree ↔ m.verdict tree = .ok false :=
    fun m => Matcher.verdict_eq_ok_iff.symm
  simp only [hdone]
  refine ⟨allMatch_ne_true habsent, fun e => ?_, ?_, ?_⟩
  · simp only [allMatch_eq_iff (r := .error e) (by simp), Matcher.verdict_eq_error_iff]
  · simp only [allMatch_eq_iff (r := .ok false) (by simp), hrefuses]
  · have hfails : ∀ l, l.Perm ms →
        ((∃ e, allMatch true tree l = .error e) ↔ allMatch true tree l ≠ .ok false) := by
      intro l hperm
      have hnot : allMatch true tree l ≠ .ok true := by
        apply allMatch_ne_true
        simpa only [hperm.mem_iff] using habsent
      cases hl : allMatch true tree l with
      | error e => simp
      | ok b => cases b <;> simp_all
    constructor
    · intro hall m hm hrefused
      obtain ⟨l, hperm, hfalse⟩ := exists_perm_hidden_iff.mpr ⟨m, hm, hrefused⟩
      exact (hfails l hperm).mp (hall l hperm) hfalse
    · intro hnone l hperm
      refine (hfails l hperm).mpr fun hfalse => ?_
      obtain ⟨m, hm, hrefused⟩ := exists_perm_hidden_iff.mp ⟨l, hperm, hfalse⟩
      exact hnone m hm hrefused

/-- A shape that declares the phase and nothing else. -/
def phaseShape : Shape := .object [("status", .object [("phase", .string)])]

def pendingObject : Value := .map [("status", .map [("phase", .str "Pending")])]

/-- A matcher of the text in the status under a name. -/
def statusMatcher (name value : Text) : Matcher :=
  ⟨⟨[.field "status", .field name]⟩,
    ⟨Pattern.exactSource value, .ofList (Pattern.exactNodes value)⟩⟩

lemma pendingObject_converted :
    (strip pendingObject >>= phaseShape.convert [] []) = .ok pendingObject := rfl

lemma phaseMatcher_refuses : (statusMatcher "phase" "Running").Refuses pendingObject := by
  refine ⟨.str "Pending", rfl, by simp, ?_⟩
  have hother : (statusMatcher "phase" "Running").pattern.foundIn "Pending" ≠ true := by
    intro hfound
    have heq : ("Pending" : Text) = "Running" := Pattern.foundIn_exactNodes_iff.mp hfound
    exact absurd heq (by decide)
  exact congrArg Except.ok (Bool.eq_false_iff.mpr hother)

lemma addressMatcher_unresolved : (statusMatcher "podIP" "x").Unresolved pendingObject := by
  intro v hwalk
  cases hwalk

theorem pendingObject_hides_absence_behind_phase :
    Matcher.build "status.phase" "Running" .equal = .ok (statusMatcher "phase" "Running") ∧
    Matcher.build "status.podIP" "x" .equal = .ok (statusMatcher "podIP" "x") ∧
    (strip pendingObject >>= phaseShape.convert [] []) = .ok pendingObject ∧
    (∃ m ∈ [statusMatcher "podIP" "x", statusMatcher "phase" "Running"],
      m.Unresolved pendingObject) ∧
    isDone pendingObject (.fields [statusMatcher "podIP" "x", statusMatcher "phase" "Running"]
      (some phaseShape) []) = .error (.absent "status.podIP") ∧
    isDone pendingObject (.fields [statusMatcher "phase" "Running", statusMatcher "podIP" "x"]
      (some phaseShape) []) = .ok false := by
  have habsent : ∃ m ∈ [statusMatcher "podIP" "x", statusMatcher "phase" "Running"],
      m.Unresolved pendingObject := ⟨_, by simp, addressMatcher_unresolved⟩
  have hbehind : ∃ m ∈ [statusMatcher "phase" "Running", statusMatcher "podIP" "x"],
      m.Unresolved pendingObject := ⟨_, by simp, addressMatcher_unresolved⟩
  refine ⟨?_, ?_, pendingObject_converted, habsent, ?_, ?_⟩
  · refine Matcher.build_eq_ok_iff.mpr ⟨Pattern.ofValue_equal (by decide), ?_⟩
    exact mapError_eq_ok_iff.mpr (by decide +kernel)
  · refine Matcher.build_eq_ok_iff.mpr ⟨Pattern.ofValue_equal (by decide), ?_⟩
    exact mapError_eq_ok_iff.mpr (by decide +kernel)
  · refine ((absence_reported_unless_refused_before pendingObject_converted habsent).2.1 _).mpr ?_
    exact ⟨[], _, _, rfl, by simp, .unresolved addressMatcher_unresolved⟩
  · refine (absence_reported_unless_refused_before pendingObject_converted hbehind).2.2.1.mpr ?_
    exact ⟨[], _, _, rfl, by simp, phaseMatcher_refuses⟩

/-- So it is not true that a path that leads nowhere is always reported. -/
theorem absence_not_always_reported :
    ¬ ∀ (object tree : Value) (shape : Shape) (hints : Hints) (ms : List Matcher),
      (strip object >>= shape.convert hints []) = .ok tree → (∃ m ∈ ms, m.Unresolved tree) →
      ∃ e, isDone object (.fields ms (some shape) hints) = .error e := by
  intro hall
  obtain ⟨e, he⟩ := hall pendingObject pendingObject phaseShape []
    [statusMatcher "phase" "Running", statusMatcher "podIP" "x"] pendingObject_converted
    ⟨_, by simp, addressMatcher_unresolved⟩
  have hdone : ∀ ms, isDone pendingObject (.fields ms (some phaseShape) [])
      = allMatch true pendingObject ms := isDone_fields_eq pendingObject_converted
  rw [hdone, allMatch_cons,
    Matcher.verdict_eq_ok_iff.mpr phaseMatcher_refuses] at he
  cases he

end Strategy

end Settle

import Settle.Proofs.Config.Accepted
import Settle.Proofs.Pattern.Exact
import Settle.Proofs.Shape.Navigation
import Settle.Proofs.Strategy.Bookkeeping
import Settle.Proofs.Value.Scalar

/-!
# When fields hold

A field of a wait asks for a scalar at a path, and its text has to be the value that is wanted or
to hold a match of it; a wildcard takes any scalar. A snapshot shows the state exactly if all
fields hold in what it is converted to, whatever their order and however often each is asked for.
-/

namespace Settle

/-! ### Matchers -/

/-- A text is the value that is wanted, or holds a match of it. -/
def Comparison.Accepts [CharacterNames] (value t : Text) : Comparison → Prop
  | .equal => t = value
  | .regex => ∃ p, Pattern.compile value = .ok p ∧ p.foundIn t = true

/-- The pattern of a value is found in a text if the text is what the value asks for. -/
lemma Pattern.foundIn_ofValue_iff [CharacterNames] {value : Text} {how : Comparison} {p : Pattern}
    (h : ofValue value how true = .ok p) (t : Text) :
    p.foundIn t = true ↔ value = wildcard ∨ how.Accepts value t := by
  by_cases hvalue : value = wildcard
  · subst hvalue
    obtain ⟨p', hp', hfound⟩ := exists_ofValue_wildcard how
    obtain rfl : p' = p := Except.ok.inj (hp'.symm.trans h)
    exact iff_of_true (hfound t) (Or.inl rfl)
  · have hself : ¬ (true && decide (value = wildcard)) = true := by simp [hvalue]
    rw [or_iff_right hvalue]
    cases how with
    | equal =>
      obtain rfl := Except.ok.inj ((ofValue_equal hself).symm.trans h)
      exact foundIn_exactNodes_iff
    | regex =>
      unfold ofValue at h
      rw [if_neg hself] at h
      refine ⟨fun hfound => ⟨p, h, hfound⟩, fun ⟨p', hp', hfound⟩ => ?_⟩
      obtain rfl : p' = p := Except.ok.inj (hp'.symm.trans h)
      exact hfound

namespace Matcher

lemma build_eq_ok_iff [CharacterNames] {key value : Text} {how : Comparison} {m : Matcher} :
    build key value how = .ok m ↔
      Pattern.ofValue value how true = .ok m.pattern ∧ Path.ofText key = .ok m.path := by
  simp only [build, bind_eq_ok_iff, mapError_eq_ok_iff]
  constructor
  · rintro ⟨p, hp, path, hpath, h⟩
    cases h
    exact ⟨hp, hpath⟩
  · rintro ⟨hp, hpath⟩
    exact ⟨m.pattern, hp, m.path, hpath, rfl⟩

lemma accepts_eq_ok_true_iff {m : Matcher} {v : Value} :
    m.accepts v = .ok true ↔
      ∃ t, v.scalarText .plain = .ok t ∧ m.pattern.foundIn t = true := by
  unfold accepts
  cases v.scalarText .plain <;> simp [Except.mapError, Except.map]

end Matcher

/-! ### Converted objects -/

namespace Shape

variable {hints : Hints} {path : Text}

/-- Conversion makes no integers. -/
lemma eq_int_of_convert {shape : Shape} {v : Value} {n : Int}
    (h : shape.convert hints path v = .ok (.int n)) : v = .int n := by
  cases shape with
  | any =>
    rw [convert_any] at h
    exact Except.ok.inj h
  | string =>
    cases v with
    | int m =>
      simp only [convert, convertString] at h
      split at h
      · obtain ⟨_, -, heq⟩ := map_eq_ok_iff.mp h
        cases heq
      · cases h
    | _ => simp [convert, convertString, mismatch] at h
  | number | bool | list | map | object =>
    cases v <;> simp [convert, convertNumber, convertBool, mismatch, map_eq_ok_iff] at h
    try rw [h]

/-- A scalar at a path of a converted value can be written if the value can. -/
lemma writable_of_walk_converted {shape : Shape} {raw tree v : Value} (hraw : raw.Writable)
    (h : shape.convert hints path raw = .ok tree) {p : Path} (hv : p.walk tree = some v)
    (hscalar : v.IsScalar) : v.Writable := by
  cases v with
  | null | list | map => exact hscalar.elim
  | str | bool | float => simp
  | int n =>
    rw [Path.walk] at hv
    cases hshape : shape.at? path p.steps with
    | none =>
      rw [at?_eq_none h hshape] at hv
      cases hv
    | some place =>
      have hrel := at?_rel h hshape
      rw [hv] at hrel
      obtain ⟨r, hr, hconvert⟩ := exists_of_rel_some hrel
      rw [← eq_int_of_convert hconvert]
      exact hraw.walk hr

end Shape

namespace Strategy

lemma writable_stripMetadata {v : Value} (h : v.Writable) : (stripMetadata v).Writable := by
  cases v with
  | map es =>
    rw [stripMetadata, Value.writable_map_iff]
    exact fun e he => Value.writable_map_iff.mp h e (List.mem_of_mem_filter he)
  | _ => exact h

lemma writable_of_strip {object stripped : Value} (hobject : object.Writable)
    (h : strip object = .ok stripped) : stripped.Writable := by
  cases object with
  | map es =>
    rw [strip_map] at h
    cases h
    rw [Value.writable_map_iff] at hobject ⊢
    refine List.forall_mem_map.mpr fun e he => ?_
    simp only [stripEntry]
    split
    · exact writable_stripMetadata (hobject e he)
    · exact hobject e he
  | _ => cases h

lemma allMatch_eq_ok_true_iff {known : Bool} {tree : Value} {ms : List Matcher} :
    allMatch known tree ms = .ok true ↔
      ∀ m ∈ ms, ∃ v, m.path.walk tree = some v ∧ m.accepts v = .ok true := by
  induction ms with
  | nil => simp [allMatch]
  | cons m ms ih =>
    rw [List.forall_mem_cons, ← ih, allMatch]
    cases hwalk : m.path.walk tree with
    | none => cases known <;> simp
    | some v =>
      have hfound : (∃ w, some v = some w ∧ m.accepts w = .ok true) ↔ m.accepts v = .ok true := by
        simp
      rw [hfound]
      by_cases hnull : v = .null
      · subst hnull
        have hrefused : m.accepts .null ≠ .ok true := by
          rw [ne_eq, Matcher.accepts_eq_ok_true_iff]
          rintro ⟨t, ht, -⟩
          exact Value.isScalar_of_scalarText ht
        cases known <;> simp [hrefused]
      · cases haccepts : m.accepts v with
        | error e => simp [haccepts, bind, Except.bind]
        | ok b => cases b <;> simp [haccepts, bind, Except.bind, pure, Except.pure]

lemma isDone_fields_eq {object tree : Value} {shape? : Option Shape} {hints : Hints}
    (h : (strip object >>= (shape?.getD .any).convert hints []) = .ok tree) (ms : List Matcher) :
    isDone object (.fields ms shape? hints) = allMatch shape?.isSome tree ms := by
  obtain ⟨stripped, hstrip, hconvert⟩ := bind_eq_ok_iff.mp h
  rw [isDone, hstrip, ok_bind, hconvert, ok_bind]

end Strategy

/-! ### Fields -/

namespace WaitField

/-- A tree holds at the path of a field a scalar whose text is what is wanted. -/
def HoldsIn [CharacterNames] (f : WaitField) (tree : Value) : Prop :=
  ∃ p v, Path.ofText f.key = .ok p ∧ p.walk tree = some v ∧ v.IsScalar ∧
    (f.value = Pattern.wildcard ∨ ∃ t, v.scalarText .plain = .ok t ∧ f.how.Accepts f.value t)

/-- The matcher of an accepted field is the one that its texts give. -/
lemma build_of_accepted [CharacterNames] {d : Document} {f : WaitField} (h : ofDocument d = .ok f) :
    Matcher.build f.key f.value f.how = .ok f.matcher := by
  obtain ⟨es, -, hparts⟩ := bind_eq_ok_iff.mp h
  obtain ⟨⟨key, value, how⟩, -, hbuilt⟩ := bind_eq_ok_iff.mp hparts
  obtain ⟨m, hm, hf⟩ := bind_eq_ok_iff.mp hbuilt
  cases hf
  exact Checked.ofAttempt_eq_ok_iff.mp hm

/-- The matcher of a field accepts what is at its path exactly if the field holds. -/
lemma holdsIn_iff [CharacterNames] {f : WaitField}
    (hbuild : Matcher.build f.key f.value f.how = .ok f.matcher) {tree : Value}
    (htree : ∀ (p : Path) (v : Value), p.walk tree = some v → v.IsScalar → v.Writable) :
    f.HoldsIn tree ↔
      ∃ v, f.matcher.path.walk tree = some v ∧ f.matcher.accepts v = .ok true := by
  obtain ⟨hpattern, hpath⟩ := Matcher.build_eq_ok_iff.mp hbuild
  have hfound := Pattern.foundIn_ofValue_iff hpattern
  constructor
  · rintro ⟨p, v, hp, hwalk, hscalar, hwanted⟩
    obtain rfl : p = f.matcher.path := Except.ok.inj (hp.symm.trans hpath)
    obtain ⟨t, ht⟩ := Value.exists_scalarText hscalar (htree _ v hwalk hscalar) .plain
    refine ⟨v, hwalk, Matcher.accepts_eq_ok_true_iff.mpr ⟨t, ht, (hfound t).mpr ?_⟩⟩
    refine hwanted.imp_right ?_
    rintro ⟨t', ht', haccepts⟩
    rwa [Except.ok.inj (ht.symm.trans ht')]
  · rintro ⟨v, hwalk, haccepts⟩
    obtain ⟨t, ht, hmatch⟩ := Matcher.accepts_eq_ok_true_iff.mp haccepts
    refine ⟨f.matcher.path, v, hpath, hwalk, Value.isScalar_of_scalarText ht, ?_⟩
    exact ((hfound t).mp hmatch).imp_right fun h => ⟨t, ht, h⟩

/-- A document that is accepted with some texts and a comparison is a field with them. -/
lemma exists_accepted [CharacterNames] {d : Document} {key value : Text} {how : Comparison}
    (h : (ofDocument d).toOption.map (fun f => (f.key, f.value, f.how))
      = some (key, value, how)) :
    ∃ f, ofDocument d = .ok f ∧ f.key = key ∧ f.value = value ∧ f.how = how := by
  cases hd : ofDocument d with
  | error e =>
    rw [hd] at h
    cases h
  | ok f =>
    rw [hd] at h
    cases h
    exact ⟨f, rfl, rfl, rfl, rfl⟩

end WaitField

namespace Strategy

/-- A wait for a phase. -/
def phaseDocument : Document :=
  .map [(.str "key", .str "status.phase"), (.str "value", .str "Running")]

/-- A wait for any number of replicas. -/
def replicasDocument : Document :=
  .map [(.str "key", .str "spec.replicas"), (.str "value", .str "*"),
    (.str "value_type", .str "regex")]

def runningObject : Value :=
  .map [("metadata", .map [("managedFields", .list [])]), ("spec", .map [("replicas", .int 3)]),
    ("status", .map [("phase", .str "Running")])]

def runningTree : Value :=
  .map [("metadata", .map []), ("spec", .map [("replicas", .int 3)]),
    ("status", .map [("phase", .str "Running")])]

lemma runningObject_writable : runningObject.Writable := by
  have hthree : Decimal.tooLong 3 = false := by decide +kernel
  simp [runningObject, hthree]

end Strategy

end Settle

import Settle.Config.Basic
import Settle.Proofs.Config.Accepted
import Settle.Proofs.Pattern.Overflow

/-!
# When a configuration is rejected

Every document is accepted as a configuration or rejected with issues, unless it holds a number
that is beyond all limits: an integer as a timeout that no floating-point number is near, a count
of repetitions in a regular expression, or an escaped code point in a path. The check then stops
with an overflow. How deep expressions may be nested is not limited here.
-/

namespace Settle

namespace Checked

/-- How a check ends that stops with an overflow in one case only. -/
inductive Ends {α : Type} (p : Prop) : Checked α → Prop where
  | accepted (h : ¬ p) (a : α) : Ends p (.ok a)
  | rejected (h : ¬ p) {is : List Issue} (his : is ≠ []) : Ends p (.error (.issues is))
  | stopped (h : p) : Ends p (.error (.failed .overflow))

namespace Ends

variable {α β : Type} {p q : Prop} {x : Checked α} {y : Checked β}

lemma congr (h : Ends p x) (hpq : p ↔ q) : Ends q x := propext hpq ▸ h

lemma ok (a : α) : Ends False (.ok a : Checked α) := .accepted not_false a

lemma problem (e : Problem) : Ends False (Checked.problem e : Checked α) :=
  .rejected not_false (List.cons_ne_nil _ _)

lemma inside (h : Ends p x) (place : Place) : Ends p (x.inside place) := by
  cases h with
  | accepted h a => exact .accepted h a
  | rejected h his => exact .rejected h (by simpa using his)
  | stopped h => exact .stopped h

lemma map (h : Ends p x) (f : α → β) : Ends p (x.map f) := by
  cases h with
  | accepted h a => exact .accepted h (f a)
  | rejected h his => exact .rejected h his
  | stopped h => exact .stopped h

lemma both (hx : Ends p x) (hy : Ends q y) : Ends (p ∨ q) (Checked.both x y) := by
  cases hx with
  | accepted hp a =>
    cases hy with
    | accepted hq b => exact .accepted (not_or.mpr ⟨hp, hq⟩) (a, b)
    | rejected hq his => exact .rejected (not_or.mpr ⟨hp, hq⟩) his
    | stopped hq => exact .stopped (Or.inr hq)
  | rejected hp his =>
    cases hy with
    | accepted hq b => exact .rejected (not_or.mpr ⟨hp, hq⟩) his
    | rejected hq hjs => exact .rejected (not_or.mpr ⟨hp, hq⟩) (by simp [his])
    | stopped hq => exact .stopped (Or.inr hq)
  | stopped hp => exact .stopped (Or.inl hp)

/-- A check that does not stop, and one of what it gives. -/
lemma bind {q : α → Prop} {f : α → Checked β} (hx : Ends False x) (hf : ∀ a, Ends (q a) (f a)) :
    Ends (∃ a, x = .ok a ∧ q a) (x >>= f) := by
  cases hx with
  | accepted _ a => exact (hf a).congr (by simp)
  | rejected _ his => exact .rejected (by simp) his
  | stopped h => exact h.elim

/-- The first check of two may stop as well. -/
lemma bind_left {f : α → Checked β} (hx : Ends p x) (hf : ∀ a, Ends False (f a)) :
    Ends p (x >>= f) := by
  cases hx with
  | accepted hp a => exact (hf a).congr (by simp [hp])
  | rejected hp his => exact .rejected hp his
  | stopped hp => exact .stopped hp

lemma eachFrom {p : α → Prop} {read : α → Checked β} (h : ∀ a, Ends (p a) (read a)) (n : Nat)
    (as : List α) : Ends (∃ a ∈ as, p a) (Checked.eachFrom read n as) := by
  induction as generalizing n with
  | nil => exact (ok []).congr (by simp)
  | cons a as ih => exact ((((h a).inside (.index n)).both (ih (n + 1))).map _).congr (by simp)

end Ends

end Checked

namespace Document

/-- The items of a collection; other documents have none. -/
def items (d : Document) : List Document := d.items?.getD []

/-- What a map holds under a text. -/
def part? (name : Text) (d : Document) : Option Document := d.entries?.bind (lookup name)

lemma part?_eq_some_iff {name : Text} {d v : Document} :
    d.part? name = some v ↔ ∃ es, d.entries? = some es ∧ lookup name es = some v :=
  Option.bind_eq_some_iff

/-- What holds something is not blank. -/
lemma isBlank_of_part? {name : Text} {d v : Document} (h : d.part? name = some v) :
    d.isBlank = false := by
  cases d with
  | map es =>
    cases es with
    | nil => cases h
    | cons e es => rfl
  | _ => cases h

end Document

open Checked (Ends)

/-! ### Reading -/

namespace Read

variable {α : Type} {p : Document → Prop} {read : Document → Checked α}

lemma characters_ends (t : Text) : Ends False (characters t) := by
  unfold characters
  split
  · exact .problem _
  · exact .ok t

lemma text_ends (d : Document) : Ends False (text d) := by
  cases d with
  | str t => exact characters_ends t
  | bytes b =>
    rw [text]
    split
    · exact .ok _
    · exact .problem _
  | _ => exact .problem _

lemma written?_ends (e : Problem) (d : Document) : Ends False (written? e d) := by
  cases d with
  | str t => exact (characters_ends t).map some
  | bytes b =>
    rw [written?]
    split
    · exact .ok _
    · exact .problem _
  | _ => exact .ok none

lemma booleanOfInt_ends (n : Int) : Ends False (booleanOfInt n) := by
  unfold booleanOfInt
  split_ifs
  exacts [.ok _, .ok _, .problem _, .problem _]

lemma boolean_ends (d : Document) : Ends False (boolean d) := by
  unfold boolean
  split
  · exact .ok _
  · exact booleanOfInt_ends _
  · split
    · exact booleanOfInt_ends _
    · exact .problem _
  · refine (written?_ends _ _).bind_left fun t? => ?_
    split
    · exact .problem _
    · split
      · exact .ok _
      · exact .problem _

lemma comparison_ends (d : Document) : Ends False (comparison d) := by
  unfold comparison
  split
  · split
    · exact .ok _
    · exact .problem _
  · exact .problem _

lemma entries_ends (name : Text) (d : Document) : Ends False (entries name d) := by
  unfold entries
  split
  · exact .ok _
  · exact .problem _

lemma entries_eq_ok_iff {name : Text} {d : Document} {es : List (Document × Document)} :
    entries name d = .ok es ↔ d.entries? = some es := by
  unfold entries
  split <;> simp [*, Checked.problem]

lemma orNull_ends (h : ∀ d, Ends (p d) (read d)) (hnull : ¬ p .null) (d : Document) :
    Ends (p d) (orNull read d) := by
  cases d with
  | null => exact .accepted hnull none
  | _ => exact (h _).map some

lemma list_ends (h : ∀ d, Ends (p d) (read d)) (d : Document) :
    Ends (∃ i ∈ d.items, p i) (list read d) := by
  unfold list Document.items
  cases d.items? with
  | none => exact (Ends.problem _).congr (by simp)
  | some ds => exact .eachFrom h 0 ds

lemma required_ends (name : Text) (h : ∀ d, Ends (p d) (read d))
    (es : List (Document × Document)) :
    Ends (∃ d, Document.lookup name es = some d ∧ p d) (required name read es) := by
  unfold required
  cases hd : Document.lookup name es with
  | none => exact ((Ends.problem _).inside _).congr (by simp)
  | some d => exact ((h d).inside _).congr (by simp)

lemma optional_ends (name : Text) (default : α) (h : ∀ d, Ends (p d) (read d))
    (es : List (Document × Document)) :
    Ends (∃ d, Document.lookup name es = some d ∧ p d) (optional name default read es) := by
  unfold optional
  cases hd : Document.lookup name es with
  | none => exact ((Ends.ok _).inside _).congr (by simp)
  | some d => exact ((h d).inside _).congr (by simp)

lemma requiredText_ends (name : Text) (es : List (Document × Document)) :
    Ends False (required name text es) :=
  (required_ends name text_ends es).congr (by simp)

lemma optionalText_ends (name : Text) (es : List (Document × Document)) :
    Ends False (optional name none (orNull text) es) :=
  (optional_ends name none (orNull_ends text_ends not_false) es).congr (by simp)

lemma comparisonField_ends (default : Comparison) (es : List (Document × Document)) :
    Ends False (optional "value_type" default comparison es) :=
  (optional_ends "value_type" default comparison_ends es).congr (by simp)

end Read

/-! ### Texts of fields -/

/-- A number in the regular expression of a value, or else a code point in the path of a key, is
beyond all limits. -/
inductive Oversized [CharacterNames] (key value : Text) (how : Comparison) (anyText : Bool) :
    Prop where
  | value (regex : how = .regex) (h : Pattern.Overflows value)
  | key {p : Pattern} (built : Pattern.ofValue value how anyText = .ok p)
      (h : Path.Overruns key .hugeCodePoint)

lemma oversized_iff [CharacterNames] {key value : Text} {how : Comparison} {anyText : Bool} :
    Oversized key value how anyText ↔ Pattern.ofValue value how anyText = .error .hugeNumber ∨
      (∃ p, Pattern.ofValue value how anyText = .ok p) ∧
        Path.parse key = .error .hugeCodePoint := by
  have hkey : Path.Overruns key .hugeCodePoint ↔ Path.parse key = .error .hugeCodePoint :=
    Path.overruns_iff.trans (and_iff_right trivial)
  rw [Pattern.ofValue_eq_hugeNumber_iff, ← hkey]
  constructor
  · rintro (⟨regex, h⟩ | ⟨built, h⟩)
    · exact Or.inl ⟨regex, h⟩
    · exact Or.inr ⟨⟨_, built⟩, h⟩
  · rintro (⟨regex, h⟩ | ⟨⟨p, built⟩, h⟩)
    · exact .value regex h
    · exact .key built h

namespace Checked

lemma ofAttempt_pattern_ends [CharacterNames] {α : Type} (what key value : Text)
    (how : Comparison) (anyText : Bool) (make : Pattern → Path → α) :
    Ends (Oversized key value how anyText) (ofAttempt do
      let pattern ← (Pattern.ofValue value how anyText).mapError
        (Failure.ofPatternError what value value)
      return make pattern (← Path.ofText key)) := by
  cases hpattern : Pattern.ofValue value how anyText with
  | error e =>
    cases e with
    | hugeNumber => exact .stopped (oversized_iff.mpr (Or.inl hpattern))
    | _ => exact .rejected (by simp [oversized_iff, hpattern]) (List.cons_ne_nil _ _)
  | ok p =>
    rw [Path.ofText]
    cases hpath : Path.parse key with
    | error e =>
      cases e with
      | hugeCodePoint => exact .stopped (oversized_iff.mpr (Or.inr ⟨⟨p, hpattern⟩, hpath⟩))
      | _ => exact .rejected (by simp [oversized_iff, hpattern, hpath]) (List.cons_ne_nil _ _)
    | ok path => exact .accepted (by simp [oversized_iff, hpattern, hpath]) (make p path)

end Checked

/-- An entry is a field to wait for but for the size of a number. -/
def WaitField.IsOversized [CharacterNames] (d : Document) : Prop :=
  ∃ es key value how, d.entries? = some es ∧ Read.required "key" Read.text es = .ok key ∧
    Read.required "value" Read.text es = .ok value ∧
    Read.optional "value_type" .equal Read.comparison es = .ok how ∧ Oversized key value how true

lemma WaitField.ofDocument_ends [CharacterNames] (d : Document) :
    Ends (IsOversized d) (ofDocument d) := by
  have hparts : ∀ es, Ends False (Checked.both (Read.required "key" Read.text es)
      (Checked.both (Read.required "value" Read.text es)
        (Read.optional "value_type" .equal Read.comparison es))) := fun es =>
    ((Read.requiredText_ends _ es).both ((Read.requiredText_ends _ es).both
      (Read.comparisonField_ends _ es))).congr (by simp)
  have hbuild := fun es => (hparts es).bind fun r =>
    (Checked.ofAttempt_pattern_ends "invalid regular expression" r.1 r.2.1 r.2.2 true
      fun pattern path => Matcher.mk path pattern).bind_left fun m =>
        .ok (WaitField.mk r.1 r.2.1 r.2.2 m)
  refine ((Read.entries_ends _ d).bind hbuild).congr ?_
  simp [IsOversized, Checked.both_eq_ok_iff, Read.entries_eq_ok_iff, and_assoc]

/-- An entry is a field to abort on but for the size of a number. -/
def ErrorField.IsOversized [CharacterNames] (d : Document) : Prop :=
  ∃ es key value how message?, d.entries? = some es ∧ Read.required "key" Read.text es = .ok key ∧
    Read.required "value" Read.text es = .ok value ∧
    Read.optional "value_type" .regex Read.comparison es = .ok how ∧
    Read.optional "message" none (Read.orNull Read.text) es = .ok message? ∧
    Oversized key value how false

lemma ErrorField.ofDocument_ends [CharacterNames] (d : Document) :
    Ends (IsOversized d) (ofDocument d) := by
  have hparts : ∀ es, Ends False (Checked.both (Read.required "key" Read.text es)
      (Checked.both (Read.required "value" Read.text es)
        (Checked.both (Read.optional "value_type" .regex Read.comparison es)
          (Read.optional "message" none (Read.orNull Read.text) es)))) := fun es =>
    ((Read.requiredText_ends _ es).both ((Read.requiredText_ends _ es).both
      ((Read.comparisonField_ends _ es).both (Read.optionalText_ends _ es)))).congr (by simp)
  have hbuild := fun es => (hparts es).bind fun r =>
    (Checked.ofAttempt_pattern_ends "error_on: invalid regex" r.1 r.2.1 r.2.2.1 false
      fun pattern path => Rule.field r.1 path r.2.1 pattern r.2.2.2).bind_left fun rule =>
        .ok (ErrorField.mk r.1 r.2.1 r.2.2.1 r.2.2.2 rule)
  refine ((Read.entries_ends _ d).bind hbuild).congr ?_
  simp [IsOversized, Checked.both_eq_ok_iff, Read.entries_eq_ok_iff, and_assoc]

/-! ### Blocks -/

lemma Condition.ofDocument_ends (d : Document) : Ends False (ofDocument d) :=
  (Read.entries_ends _ d).bind_left fun es =>
    (((Read.requiredText_ends _ es).both (Read.requiredText_ends _ es)).congr
      (by simp)).bind_left fun _ => .ok _

lemma ErrorCondition.ofDocument_ends (d : Document) : Ends False (ofDocument d) :=
  (Read.entries_ends _ d).bind_left fun es =>
    (((Read.optionalText_ends _ es).both ((Read.optionalText_ends _ es).both
      (Read.optionalText_ends _ es))).congr (by simp)).bind_left fun _ => .ok _

lemma WaitBlock.select_ends (rollout : Bool) (conditions : List Condition)
    (fields : List WaitField) : Ends False (select rollout conditions fields) := by
  unfold select
  split
  exacts [.ok _, .ok _, .ok _, .ok _, .problem _]

/-- A block holds, in its list of fields, one whose numbers are beyond all limits. -/
def HoldsOversized (p : Document → Prop) (block : Document) : Prop :=
  ∃ fields, block.part? "field" = some fields ∧ ∃ f ∈ fields.items, p f

lemma WaitBlock.ofDocument_ends [CharacterNames] (d : Document) :
    Ends (HoldsOversized WaitField.IsOversized d) (ofDocument d) := by
  have hparts := fun es =>
    (Read.optional_ends "rollout" false Read.boolean_ends es).both
      ((Read.optional_ends "condition" [] (Read.list_ends Condition.ofDocument_ends) es).both
        (Read.optional_ends "field" [] (Read.list_ends WaitField.ofDocument_ends) es))
  refine ((Read.entries_ends _ d).bind fun es =>
    (hparts es).bind_left fun r => select_ends r.1 r.2.1 r.2.2).congr ?_
  cases hd : d.entries? <;> simp [HoldsOversized, Read.entries_eq_ok_iff, Document.part?, hd]

lemma ErrorOnBlock.ofDocument_ends [CharacterNames] (d : Document) :
    Ends (HoldsOversized ErrorField.IsOversized d) (ofDocument d) := by
  have hparts := fun es =>
    (Read.optional_ends "field" [] (Read.list_ends ErrorField.ofDocument_ends) es).both
      (Read.optional_ends "condition" [] (Read.list_ends ErrorCondition.ofDocument_ends) es)
  refine ((Read.entries_ends _ d).bind fun es =>
    (hparts es).bind_left fun r => .ok (ErrorOnBlock.mk r.1 r.2)).congr ?_
  cases hd : d.entries? <;> simp [HoldsOversized, Read.entries_eq_ok_iff, Document.part?, hd]

namespace Timeouts

/-- An integer that no floating-point number is near. -/
def IsHuge (d : Document) : Prop := ∃ n, d = .int n ∧ Binary64.ofInt? n = none

lemma duration_ends (d : Document) :
    Ends (IsHuge d) (Checked.ofAttempt (Duration.ofDocument d)) := by
  cases d with
  | int n =>
    rw [Duration.ofDocument]
    split
    · next x hx => exact .accepted (by simp [IsHuge, hx]) x
    · next hn => exact .stopped ⟨n, rfl, hn⟩
  | float x => exact .accepted (by simp [IsHuge]) x
  | str t =>
    rw [Duration.ofDocument]
    split
    · next x _ => exact .accepted (by simp [IsHuge]) x
    · exact .rejected (by simp [IsHuge]) (List.cons_ne_nil _ _)
  | _ =>
    simp only [Duration.ofDocument]
    cases Document.literal _ <;>
      exact .rejected (by simp [IsHuge]) (List.cons_ne_nil _ _)

lemma read_ends (d : Document) : Ends (IsHuge d) (read d) := by
  refine (duration_ends d).bind_left fun x => ?_
  have habove : Ends False (Read.above 0 x) := by
    unfold Read.above
    split
    · exact .ok x
    · exact .problem _
  exact habove.bind_left fun x => .ok (some x)

lemma ofDocument_ends (d : Document) :
    Ends (∃ (op : Operation) (t : Document), d.part? op.name = some t ∧ IsHuge t)
      (ofDocument d) := by
  have hparts := fun es =>
    (Read.optional_ends Operation.create.name none read_ends es).both
      ((Read.optional_ends Operation.update.name none read_ends es).both
        (Read.optional_ends Operation.delete.name none read_ends es))
  refine ((Read.entries_ends _ d).bind fun es =>
    (hparts es).bind_left fun r => .ok (Timeouts.mk r.1 r.2.1 r.2.2)).congr ?_
  have hop : ∀ p : Operation → Prop, (∃ op, p op) ↔ p .create ∨ p .update ∨ p .delete := by
    refine fun p => ⟨?_, ?_⟩
    · rintro ⟨_ | _ | _, h⟩ <;> simp [h]
    · rintro (h | h | h) <;> exact ⟨_, h⟩
  cases hd : d.entries? <;> simp [hop, Read.entries_eq_ok_iff, Document.part?, hd]

end Timeouts

namespace Config

/-- A number somewhere in a configuration is beyond all limits. -/
inductive IsOversized [CharacterNames] (d : Document) : Prop where
  /-- An integer is the timeout of an operation. -/
  | timeout (op : Operation) {ts t : Document} (hts : d.part? "timeouts" = some ts)
      (ht : ts.part? op.name = some t) (huge : Timeouts.IsHuge t)
  /-- A field that is waited for has such a number in its texts. -/
  | wait {b : Document} (hb : d.part? "wait" = some b) (h : HoldsOversized WaitField.IsOversized b)
  /-- A field that is aborted on has such a number in its texts. -/
  | errorOn {b : Document} (hb : d.part? "error_on" = some b)
      (h : HoldsOversized ErrorField.IsOversized b)

lemma not_holdsOversized_null (p : Document → Prop) : ¬ HoldsOversized p .null := by
  rintro ⟨_, h, -⟩
  cases h

lemma ofDocument_ends [CharacterNames] (d : Document) : Ends (IsOversized d) (ofDocument d) := by
  have hparts := fun es =>
    (Read.optional_ends "wait" none (Read.orNull_ends WaitBlock.ofDocument_ends
      (not_holdsOversized_null _)) es).both
      ((Read.optional_ends "error_on" none (Read.orNull_ends ErrorOnBlock.ofDocument_ends
        (not_holdsOversized_null _)) es).both
        (Read.optional_ends "timeouts" empty.timeouts Timeouts.ofDocument_ends es))
  refine ((Read.entries_ends _ d).bind fun es =>
    (hparts es).bind_left fun r => .ok (Config.mk r.1 r.2.1 r.2.2)).congr ?_
  simp only [Read.entries_eq_ok_iff]
  constructor
  · rintro ⟨es, hd, ⟨b, hb, h⟩ | ⟨b, hb, h⟩ | ⟨ts, hts, op, t, ht, huge⟩⟩
    · exact .wait (Document.part?_eq_some_iff.mpr ⟨es, hd, hb⟩) h
    · exact .errorOn (Document.part?_eq_some_iff.mpr ⟨es, hd, hb⟩) h
    · exact .timeout op (Document.part?_eq_some_iff.mpr ⟨es, hd, hts⟩) ht huge
  · rintro (⟨op, hts, ht, huge⟩ | ⟨hb, h⟩ | ⟨hb, h⟩)
    · obtain ⟨es, hd, hts⟩ := Document.part?_eq_some_iff.mp hts
      exact ⟨es, hd, Or.inr (Or.inr ⟨_, hts, op, _, ht, huge⟩)⟩
    · obtain ⟨es, hd, hb⟩ := Document.part?_eq_some_iff.mp hb
      exact ⟨es, hd, Or.inl ⟨_, hb, h⟩⟩
    · obtain ⟨es, hd, hb⟩ := Document.part?_eq_some_iff.mp hb
      exact ⟨es, hd, Or.inr (Or.inl ⟨_, hb, h⟩)⟩

/-- A field whose key is the escape of a number above all code points. -/
def hugeKey : List (Document × Document) :=
  [(.str "key", .str "x[\"\\UFFFFFFFF\"]"), (.str "value", .str "1")]

/-- A configuration that waits for the field. -/
def hugeConfig : Document := .map [(.str "wait", .map [(.str "field", .list [.map hugeKey])])]

lemma hugeConfig_isOversized [CharacterNames] : IsOversized hugeConfig := by
  have hvalue : ∃ p, Pattern.ofValue "1" .equal true = .ok p :=
    ⟨_, Pattern.ofValue_equal (by decide)⟩
  refine .wait (b := .map [(.str "field", .list [.map hugeKey])]) rfl
    ⟨_, rfl, .map hugeKey, List.mem_singleton_self _, ?_⟩
  exact ⟨hugeKey, "x[\"\\UFFFFFFFF\"]", "1", .equal, rfl, rfl, rfl, rfl,
    oversized_iff.mpr (Or.inr ⟨hvalue, by decide +kernel⟩)⟩

end Config

end Settle

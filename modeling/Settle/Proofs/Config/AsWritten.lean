import Settle.Proofs.Config.Rejection
import Settle.Proofs.Strategy.Fields
import Settle.Wait.Target

/-!
# Configurations as they are written

A configuration that is accepted is carried out as it is written: its rules and its matchers come
from its entries, one from each and in their order. Paths and patterns are built from the texts of
an entry when it is checked, and they can be built from these texts again at any later time, with
the same result. What is waited for is the one thing that the document asks for; no document that
asks for two of them is accepted.
-/

namespace Settle

/-! ### What a document says -/

namespace Document

/-- A document has a text under a name, in any form in which texts are taken. -/
def Gives (d : Document) (name t : Text) : Prop := ∃ v, d.part? name = some v ∧ Read.text v = .ok t

/-- A document leaves a text out, or has null in its place. -/
def Omits (d : Document) (name : Text) : Prop := d.part? name = none ∨ d.part? name = some .null

/-- A document may have a text under a name. -/
inductive Mentions (d : Document) (name : Text) : Option Text → Prop where
  | nothing (omits : d.Omits name) : Mentions d name none
  | text {t : Text} (gives : d.Gives name t) : Mentions d name (some t)

/-- A document seeks a text, or any text at all, for which the empty text stands. -/
inductive Seeks (d : Document) (name : Text) : Text → Prop where
  | any (omits : d.Omits name) : Seeks d name []
  | text {t : Text} (gives : d.Gives name t) : Seeks d name t

/-- An entry has the key of a field, a value, and a comparison unless the usual one is meant. -/
structure DescribesField (d : Document) (usual : Comparison) (key value : Text) (how : Comparison) :
    Prop where
  key   : d.Gives "key" key
  value : d.Gives "value" value
  how   : (d.part? "value_type").elim (how = usual) fun v => Read.comparison v = .ok how

/-- The entries that a block lists under a name. -/
def entriesIn (d : Document) (block name : Text) : List Document :=
  (((d.part? block).bind (part? name)).map items).getD []

/-- A block asks for something by its name. -/
inductive Asks (block : Document) : Text → Prop where
  | rollout {v : Document} (part : block.part? "rollout" = some v)
      (yes : Read.boolean v = .ok true) : Asks block "rollout"
  | condition {v : Document} (part : block.part? "condition" = some v)
      (nonempty : v.items ≠ []) : Asks block "condition"
  | field {v : Document} (part : block.part? "field" = some v)
      (nonempty : v.items ≠ []) : Asks block "field"

end Document

/-- The matcher that an entry describes, where a wildcard takes any scalar. -/
def Matcher.IsOf [CharacterNames] (d : Document) (m : Matcher) : Prop :=
  ∃ key value how, d.DescribesField .equal key value how ∧ Path.parse key = .ok m.path ∧
    Pattern.ofValue value how true = .ok m.pattern

/-- The condition that an entry describes. -/
def Condition.IsOf (d : Document) (c : Condition) : Prop :=
  d.Gives "type" c.type ∧ d.Gives "status" c.status

/-- The rule for a field that an entry describes. -/
inductive Rule.IsOfField [CharacterNames] (d : Document) : Rule → Prop where
  | intro {key value : Text} {how : Comparison} {message? : Option Text} {path : Path}
      {pattern : Pattern} (describes : d.DescribesField .regex key value how)
      (message : d.Mentions "message" message?) (path_eq : Path.parse key = .ok path)
      (pattern_eq : Pattern.ofValue value how false = .ok pattern) :
      IsOfField d (.field key path value pattern message?)

/-- The rule for a condition that an entry describes. -/
inductive Rule.IsOfCondition (d : Document) : Rule → Prop where
  | intro {type status : Text} {message? : Option Text} (seeksType : d.Seeks "type" type)
      (seeksStatus : d.Seeks "status" status) (message : d.Mentions "message" message?) :
      IsOfCondition d (.condition type status message?)

/-- What is waited for under the name of a strategy: nothing, a rollout, or what the entries of the
wait block describe. -/
inductive Target.IsOf [CharacterNames] (d : Document) (shape? : Option Shape) (hints : Hints) :
    Option Text → Option Target → Prop where
  | nothing : IsOf d shape? hints none none
  | rollout : IsOf d shape? hints (some "rollout") (some (.state (.rollout 0)))
  | conditions {wanted : List Condition}
      (entries : List.Forall₂ Condition.IsOf (d.entriesIn "wait" "condition") wanted) :
      IsOf d shape? hints (some "condition") (some (.state (.conditions wanted)))
  | fields {matchers : List Matcher}
      (entries : List.Forall₂ Matcher.IsOf (d.entriesIn "wait" "field") matchers) :
      IsOf d shape? hints (some "field") (some (.state (.fields matchers shape? hints)))

/-! ### Building again -/

/-- The rules, built from the texts of the entries once more. -/
def Config.rebuildRules [CharacterNames] (c : Config) : Except Failure (List Rule) :=
  match c.errorOn? with
  | none   => .ok []
  | some b => do
    let fields ← b.fields.mapM fun f => Rule.ofField f.key f.value f.how f.message?
    return fields ++ b.conditions.map ErrorCondition.rule

/-- What is waited for, built from the texts of the entries once more. -/
def Target.rebuild? [CharacterNames] (shape? : Option Shape) (hints : Hints) :
    Option WaitBlock → Except Failure (Option Target)
  | some (.fields f fs) => do
    let matchers ← (f :: fs).mapM fun f => Matcher.build f.key f.value f.how
    return some (.state (.fields matchers shape? hints))
  | block => .ok (ofBlock? shape? hints block)

/-! ### Reading -/

/-- What follows from being read holds of all that has been read. -/
lemma forall_of_forall₂ {α β : Type} {R : α → β → Prop} {P : β → Prop} {as : List α} {bs : List β}
    (h : List.Forall₂ R as bs) (hP : ∀ a b, R a b → P b) : ∀ b ∈ bs, P b := by
  induction h with
  | nil => exact nofun
  | cons hab _ ih => exact List.forall_mem_cons.mpr ⟨hP _ _ hab, ih⟩

namespace Read

variable {α : Type} {name : Text} {read : Document → Checked α} {d : Document}
  {es : List (Document × Document)}

lemma part?_of_entries (hes : d.entries? = some es) :
    d.part? name = Document.lookup name es := by
  rw [Document.part?, hes, Option.bind_some]

lemma required_eq_ok_iff (hes : d.entries? = some es) {a : α} :
    required name read es = .ok a ↔ ∃ v, d.part? name = some v ∧ read v = .ok a := by
  rw [required, Checked.inside_eq_ok_iff, part?_of_entries hes]
  cases Document.lookup name es <;> simp [Checked.problem]

lemma optional_eq_ok_iff (hes : d.entries? = some es) {default a : α} :
    optional name default read es = .ok a ↔
      (d.part? name).elim (a = default) fun v => read v = .ok a := by
  rw [optional, Checked.inside_eq_ok_iff, part?_of_entries hes]
  cases Document.lookup name es <;> simp [eq_comm]

lemma orNull_eq_ok_iff {v : Document} {a? : Option α} :
    orNull read v = .ok a? ↔
      v = .null ∧ a? = none ∨ v ≠ .null ∧ ∃ a, read v = .ok a ∧ a? = some a := by
  cases v with
  | null => simp [orNull, eq_comm]
  | _ =>
    rw [orNull, map_eq_ok_iff]
    · simp [eq_comm]
    · exact nofun

lemma eachFrom_eq_ok_iff {as : List Document} {bs : List α} {n : Nat} :
    Checked.eachFrom read n as = .ok bs ↔ List.Forall₂ (fun a b => read a = .ok b) as bs := by
  induction as generalizing bs n with
  | nil => simp [Checked.eachFrom, eq_comm]
  | cons a as ih =>
    rw [Checked.eachFrom, map_eq_ok_iff, List.forall₂_cons_left_iff]
    simp only [Checked.both_eq_ok_iff, Checked.inside_eq_ok_iff, ih]
    constructor
    · rintro ⟨⟨b, bs'⟩, ⟨hb, hbs⟩, rfl⟩
      exact ⟨b, bs', hb, hbs, rfl⟩
    · rintro ⟨b, bs', hb, hbs, rfl⟩
      exact ⟨(b, bs'), ⟨hb, hbs⟩, rfl⟩

lemma forall₂_of_list {v : Document} {as : List α} (h : list read v = .ok as) :
    List.Forall₂ (fun d a => read d = .ok a) v.items as := by
  unfold list at h
  unfold Document.items
  cases hds : v.items? with
  | none =>
    rw [hds] at h
    cases h
  | some ds =>
    rw [hds] at h
    exact eachFrom_eq_ok_iff.mp h

/-- Entries that are listed are read in their order; a list may be left out. -/
lemma forall₂_of_optional (hes : d.entries? = some es) {as : List α}
    (h : optional name [] (list read) es = .ok as) :
    List.Forall₂ (fun d a => read d = .ok a)
      (((d.part? name).map Document.items).getD []) as := by
  rw [optional_eq_ok_iff hes] at h
  cases hpart : d.part? name with
  | none =>
    rw [hpart] at h
    obtain rfl : as = [] := h
    exact .nil
  | some v =>
    rw [hpart] at h
    exact forall₂_of_list h

lemma gives_of_required (hes : d.entries? = some es) {t : Text}
    (h : required name text es = .ok t) : d.Gives name t :=
  (required_eq_ok_iff hes).mp h

/-- What may be left out or null, and is read otherwise. -/
lemma optional_orNull_eq_ok_iff (hes : d.entries? = some es) {a? : Option α} :
    optional name none (orNull read) es = .ok a? ↔
      d.Omits name ∧ a? = none ∨
      ∃ v a, d.part? name = some v ∧ v ≠ .null ∧ read v = .ok a ∧ a? = some a := by
  rw [optional_eq_ok_iff hes, Document.Omits]
  cases d.part? name with
  | none => simp
  | some v => simp [orNull_eq_ok_iff]

lemma mentions_of_optional (hes : d.entries? = some es) {t? : Option Text}
    (h : optional name none (orNull text) es = .ok t?) : d.Mentions name t? := by
  obtain ⟨homits, rfl⟩ | ⟨v, t, hpart, -, ht, rfl⟩ :=
    (optional_orNull_eq_ok_iff hes).mp h
  · exact .nothing homits
  · exact .text ⟨v, hpart, ht⟩

end Read

lemma Document.Mentions.seeks {d : Document} {name : Text} {t? : Option Text}
    (h : d.Mentions name t?) : d.Seeks name (t?.getD []) := by
  cases h with
  | nothing omits => exact .any omits
  | text gives => exact .text gives

/-! ### Entries -/

lemma WaitField.isOf_of_ofDocument [CharacterNames] {d : Document} {f : WaitField}
    (h : ofDocument d = .ok f) :
    Matcher.IsOf d f.matcher := by
  have hbuild := build_of_accepted h
  obtain ⟨es, hes, hparts⟩ := bind_eq_ok_iff.mp h
  rw [Read.entries_eq_ok_iff] at hes
  obtain ⟨⟨key, value, how⟩, hread, hbuilt⟩ := bind_eq_ok_iff.mp hparts
  obtain ⟨m, -, hf⟩ := bind_eq_ok_iff.mp hbuilt
  cases hf
  simp only [Checked.both_eq_ok_iff] at hread
  obtain ⟨hkey, hvalue, hhow⟩ := hread
  obtain ⟨hpattern, hpath⟩ := Matcher.build_eq_ok_iff.mp hbuild
  refine ⟨key, value, how, ⟨Read.gives_of_required hes hkey, Read.gives_of_required hes hvalue, ?_⟩,
    mapError_eq_ok_iff.mp hpath, hpattern⟩
  exact (Read.optional_eq_ok_iff hes).mp hhow

lemma Condition.isOf_of_ofDocument {d : Document} {c : Condition} (h : ofDocument d = .ok c) :
    Condition.IsOf d c := by
  obtain ⟨es, hes, hparts⟩ := bind_eq_ok_iff.mp h
  rw [Read.entries_eq_ok_iff] at hes
  obtain ⟨⟨type, status⟩, hread, hc⟩ := bind_eq_ok_iff.mp hparts
  cases hc
  obtain ⟨htype, hstatus⟩ := Checked.both_eq_ok_iff.mp hread
  exact ⟨Read.gives_of_required hes htype, Read.gives_of_required hes hstatus⟩

lemma Rule.ofField_eq_ok_iff [CharacterNames] {key value : Text} {how : Comparison}
    {message? : Option Text} {r : Rule} :
    ofField key value how message? = .ok r ↔
      ∃ path pattern, Path.parse key = .ok path ∧ Pattern.ofValue value how false = .ok pattern ∧
        r = .field key path value pattern message? := by
  simp only [ofField, bind_eq_ok_iff, mapError_eq_ok_iff, Path.ofText]
  constructor
  · rintro ⟨pattern, hpattern, path, hpath, h⟩
    cases h
    exact ⟨path, pattern, hpath, hpattern, rfl⟩
  · rintro ⟨path, pattern, hpath, hpattern, rfl⟩
    exact ⟨pattern, hpattern, path, hpath, rfl⟩

/-- The rule of an accepted field is the one that its texts give, and they are those of its
entry. -/
lemma ErrorField.isOf_of_ofDocument [CharacterNames] {d : Document} {f : ErrorField}
    (h : ofDocument d = .ok f) :
    Rule.ofField f.key f.value f.how f.message? = .ok f.rule ∧ Rule.IsOfField d f.rule := by
  obtain ⟨es, hes, hparts⟩ := bind_eq_ok_iff.mp h
  rw [Read.entries_eq_ok_iff] at hes
  obtain ⟨⟨key, value, how, message?⟩, hread, hbuilt⟩ := bind_eq_ok_iff.mp hparts
  obtain ⟨r, hr, hf⟩ := bind_eq_ok_iff.mp hbuilt
  cases hf
  rw [Checked.ofAttempt_eq_ok_iff] at hr
  refine ⟨hr, ?_⟩
  simp only [Checked.both_eq_ok_iff] at hread
  obtain ⟨hkey, hvalue, hhow, hmessage⟩ := hread
  obtain ⟨path, pattern, hpath, hpattern, rfl⟩ := Rule.ofField_eq_ok_iff.mp hr
  refine .intro ⟨Read.gives_of_required hes hkey, Read.gives_of_required hes hvalue, ?_⟩
    (Read.mentions_of_optional hes hmessage) hpath hpattern
  exact (Read.optional_eq_ok_iff hes).mp hhow

lemma ErrorCondition.isOf_of_ofDocument {d : Document} {c : ErrorCondition}
    (h : ofDocument d = .ok c) : Rule.IsOfCondition d c.rule := by
  obtain ⟨es, hes, hparts⟩ := bind_eq_ok_iff.mp h
  rw [Read.entries_eq_ok_iff] at hes
  obtain ⟨⟨type?, status?, message?⟩, hread, hc⟩ := bind_eq_ok_iff.mp hparts
  cases hc
  simp only [Checked.both_eq_ok_iff] at hread
  obtain ⟨htype, hstatus, hmessage⟩ := hread
  exact .intro (Read.mentions_of_optional hes htype).seeks
    (Read.mentions_of_optional hes hstatus).seeks (Read.mentions_of_optional hes hmessage)

/-! ### Blocks -/

/-- What a block of rules was read from. -/
lemma ErrorOnBlock.forall₂_of_ofDocument [CharacterNames] {d : Document} {b : ErrorOnBlock}
    (h : ofDocument d = .ok b) :
    List.Forall₂ (fun e f => ErrorField.ofDocument e = .ok f)
      (((d.part? "field").map Document.items).getD []) b.fields ∧
    List.Forall₂ (fun e c => ErrorCondition.ofDocument e = .ok c)
      (((d.part? "condition").map Document.items).getD []) b.conditions := by
  obtain ⟨es, hes, hparts⟩ := bind_eq_ok_iff.mp h
  rw [Read.entries_eq_ok_iff] at hes
  obtain ⟨⟨fields, conditions⟩, hread, hb⟩ := bind_eq_ok_iff.mp hparts
  cases hb
  obtain ⟨hfields, hconditions⟩ := Checked.both_eq_ok_iff.mp hread
  exact ⟨Read.forall₂_of_optional hes hfields, Read.forall₂_of_optional hes hconditions⟩

namespace WaitBlock

/-- Whether a block asks for a rollout. -/
def rolls : WaitBlock → Bool
  | .rollout => true
  | _        => false

/-- The conditions that a block asks for. -/
def conditionList : WaitBlock → List Condition
  | .conditions c cs => c :: cs
  | _                => []

/-- The fields that a block asks for. -/
def fieldList : WaitBlock → List WaitField
  | .fields f fs => f :: fs
  | _            => []

/-- What is selected is all that is given. -/
lemma parts_of_select {rollout : Bool} {conditions : List Condition} {fields : List WaitField}
    {b : WaitBlock} (h : select rollout conditions fields = .ok b) :
    b.rolls = rollout ∧ b.conditionList = conditions ∧ b.fieldList = fields := by
  unfold select at h
  split at h
  case h_5 => cases h
  all_goals
    cases h
    exact ⟨rfl, rfl, rfl⟩

/-- What a block to wait for was read from. -/
lemma forall₂_of_ofDocument [CharacterNames] {d : Document} {b : WaitBlock}
    (h : ofDocument d = .ok b) :
    (d.part? "rollout").elim (b.rolls = false) (fun v => Read.boolean v = .ok b.rolls) ∧
    List.Forall₂ (fun e c => Condition.ofDocument e = .ok c)
      (((d.part? "condition").map Document.items).getD []) b.conditionList ∧
    List.Forall₂ (fun e f => WaitField.ofDocument e = .ok f)
      (((d.part? "field").map Document.items).getD []) b.fieldList := by
  obtain ⟨es, hes, hparts⟩ := bind_eq_ok_iff.mp h
  rw [Read.entries_eq_ok_iff] at hes
  obtain ⟨⟨rolling, conditions, fields⟩, hread, hb⟩ := bind_eq_ok_iff.mp hparts
  simp only [Checked.both_eq_ok_iff] at hread
  obtain ⟨hrolling, hconditions, hfields⟩ := hread
  obtain ⟨rfl, rfl, rfl⟩ := parts_of_select hb
  exact ⟨(Read.optional_eq_ok_iff hes).mp hrolling, Read.forall₂_of_optional hes hconditions,
    Read.forall₂_of_optional hes hfields⟩

/-- Entries are listed exactly if some have been read. -/
lemma exists_items_iff {α : Type} {d : Document} {name : Text} {R : Document → α → Prop}
    {as : List α} (h : List.Forall₂ R (((d.part? name).map Document.items).getD []) as) :
    (∃ v, d.part? name = some v ∧ v.items ≠ []) ↔ as ≠ [] := by
  cases hpart : d.part? name with
  | none =>
    rw [hpart] at h
    cases h
    simp
  | some v =>
    rw [hpart] at h
    simp only [Option.some.injEq, exists_eq_left']
    rw [ne_eq, ne_eq, not_iff_not, ← List.length_eq_zero_iff, ← List.length_eq_zero_iff]
    rw [← h.length_eq]
    rfl

/-- The strategy of a block that is accepted is what its document asks for. -/
lemma strategy?_eq_some_iff [CharacterNames] {d : Document} {b : WaitBlock}
    (h : ofDocument d = .ok b) {s : Text} : b.strategy? = some s ↔ d.Asks s := by
  obtain ⟨hrollout, hconditions, hfields⟩ := forall₂_of_ofDocument h
  have hasks : d.Asks s ↔ (b.rolls = true ∧ s = "rollout") ∨
      (b.conditionList ≠ [] ∧ s = "condition") ∨ (b.fieldList ≠ [] ∧ s = "field") := by
    rw [← exists_items_iff hconditions, ← exists_items_iff hfields]
    constructor
    · rintro (⟨hpart, hyes⟩ | ⟨hpart, hne⟩ | ⟨hpart, hne⟩)
      · rw [hpart, Option.elim_some, hyes] at hrollout
        exact Or.inl ⟨(Except.ok.inj hrollout).symm, rfl⟩
      · exact Or.inr (Or.inl ⟨⟨_, hpart, hne⟩, rfl⟩)
      · exact Or.inr (Or.inr ⟨⟨_, hpart, hne⟩, rfl⟩)
    · rintro (⟨hrolls, rfl⟩ | ⟨⟨v, hpart, hne⟩, rfl⟩ | ⟨⟨v, hpart, hne⟩, rfl⟩)
      · cases hpart : d.part? "rollout" with
        | none =>
          rw [hpart, Option.elim_none, hrolls] at hrollout
          cases hrollout
        | some v =>
          rw [hpart, Option.elim_some, hrolls] at hrollout
          exact .rollout hpart hrollout
      · exact .condition hpart hne
      · exact .field hpart hne
  rw [hasks]
  cases b <;> simp [strategy?, rolls, conditionList, fieldList, eq_comm]

end WaitBlock

/-! ### Configurations -/

namespace Document

variable {d : Document} {block : Text}

lemma entriesIn_of_omits (h : d.Omits block) (name : Text) : d.entriesIn block name = [] := by
  rw [entriesIn]
  obtain h | h := h <;> rw [h] <;> rfl

lemma entriesIn_of_part? {v : Document} (h : d.part? block = some v) (name : Text) :
    d.entriesIn block name = ((v.part? name).map items).getD [] := by
  rw [entriesIn, h, Option.bind_some]

/-- Null asks for nothing. -/
lemma not_asks_of_omits (h : d.Omits block) {v : Document} (hv : d.part? block = some v)
    (s : Text) : ¬ v.Asks s := by
  obtain h | h := h
  · rw [h] at hv
    cases hv
  · obtain rfl := Option.some.inj (hv.symm.trans h)
    rintro (⟨hpart, -⟩ | ⟨hpart, -⟩ | ⟨hpart, -⟩) <;> cases hpart

end Document

namespace Config

variable {d : Document} {c : Config}

/-- The blocks that a configuration was read from. -/
lemma blocks_of_ofDocument [CharacterNames] (h : ofDocument d = .ok c) :
    (d.Omits "wait" ∧ c.wait? = none ∨ ∃ v b, d.part? "wait" = some v ∧
      WaitBlock.ofDocument v = .ok b ∧ c.wait? = some b) ∧
    (d.Omits "error_on" ∧ c.errorOn? = none ∨ ∃ v b, d.part? "error_on" = some v ∧
      ErrorOnBlock.ofDocument v = .ok b ∧ c.errorOn? = some b) := by
  obtain ⟨es, hes, hparts⟩ := bind_eq_ok_iff.mp h
  rw [Read.entries_eq_ok_iff] at hes
  obtain ⟨⟨wait?, errorOn?, timeouts⟩, hread, hc⟩ := bind_eq_ok_iff.mp hparts
  cases hc
  simp only [Checked.both_eq_ok_iff] at hread
  obtain ⟨hwait, herrorOn, -⟩ := hread
  constructor
  · refine ((Read.optional_orNull_eq_ok_iff hes).mp hwait).imp_right ?_
    rintro ⟨v, b, hpart, -, hb, hsome⟩
    exact ⟨v, b, hpart, hb, hsome⟩
  · refine ((Read.optional_orNull_eq_ok_iff hes).mp herrorOn).imp_right ?_
    rintro ⟨v, b, hpart, -, hb, hsome⟩
    exact ⟨v, b, hpart, hb, hsome⟩

lemma rules_of_ofDocument [CharacterNames] (h : ofDocument d = .ok c) :
    c.rebuildRules = .ok c.rules ∧ ∃ fields conditions, c.rules = fields ++ conditions ∧
      List.Forall₂ Rule.IsOfField (d.entriesIn "error_on" "field") fields ∧
      List.Forall₂ Rule.IsOfCondition (d.entriesIn "error_on" "condition") conditions := by
  obtain ⟨homits, hnone⟩ | ⟨v, b, hpart, hb, hsome⟩ := (blocks_of_ofDocument h).2
  · rw [rebuildRules, rules, hnone]
    refine ⟨rfl, [], [], rfl, ?_⟩
    simp only [Document.entriesIn_of_omits homits]
    exact ⟨.nil, .nil⟩
  · obtain ⟨hfields, hconditions⟩ := ErrorOnBlock.forall₂_of_ofDocument hb
    have hbuild : (b.fields.mapM fun f => Rule.ofField f.key f.value f.how f.message?)
        = .ok (b.fields.map ErrorField.rule) := by
      rw [mapM_eq_ok_iff, List.forall₂_map_right_iff, List.forall₂_same]
      exact forall_of_forall₂ hfields fun _ _ hf => (ErrorField.isOf_of_ofDocument hf).1
    rw [rebuildRules, rules, hsome]
    simp only [Document.entriesIn_of_part? hpart]
    refine ⟨?_, _, _, rfl, ?_, ?_⟩
    · simp only [hbuild]
      rfl
    · rw [List.forall₂_map_right_iff]
      exact hfields.imp fun _ _ hf => (ErrorField.isOf_of_ofDocument hf).2
    · rw [List.forall₂_map_right_iff]
      exact hconditions.imp fun _ _ hc => ErrorCondition.isOf_of_ofDocument hc

lemma strategy?_eq_some_iff [CharacterNames] (h : ofDocument d = .ok c) {s : Text} :
    c.strategy? = some s ↔ ∃ block, d.part? "wait" = some block ∧ block.Asks s := by
  rw [strategy?]
  obtain ⟨homits, hnone⟩ | ⟨v, b, hpart, hb, hsome⟩ := (blocks_of_ofDocument h).1
  · rw [hnone]
    refine iff_of_false nofun ?_
    rintro ⟨block, hblock, hasks⟩
    exact Document.not_asks_of_omits homits hblock s hasks
  · rw [hsome, Option.bind_some, WaitBlock.strategy?_eq_some_iff hb, hpart]
    simp

lemma target_of_ofDocument [CharacterNames] (h : ofDocument d = .ok c) (shape? : Option Shape)
    (hints : Hints) :
    Target.rebuild? shape? hints c.wait? = .ok (Target.ofBlock? shape? hints c.wait?) ∧
      Target.IsOf d shape? hints c.strategy? (Target.ofBlock? shape? hints c.wait?) := by
  rw [strategy?]
  obtain ⟨homits, hnone⟩ | ⟨v, b, hpart, hb, hsome⟩ := (blocks_of_ofDocument h).1
  · rw [hnone]
    exact ⟨rfl, .nothing⟩
  · obtain ⟨-, hconditions, hfields⟩ := WaitBlock.forall₂_of_ofDocument hb
    rw [hsome, Option.bind_some]
    cases b with
    | nothing => exact ⟨rfl, .nothing⟩
    | rollout => exact ⟨rfl, .rollout⟩
    | conditions first rest =>
      refine ⟨rfl, .conditions ?_⟩
      rw [Document.entriesIn_of_part? hpart]
      exact hconditions.imp fun _ _ hc => Condition.isOf_of_ofDocument hc
    | fields first rest =>
      have hbuild : ((first :: rest).mapM fun f => Matcher.build f.key f.value f.how)
          = .ok ((first :: rest).map WaitField.matcher) := by
        rw [mapM_eq_ok_iff, List.forall₂_map_right_iff, List.forall₂_same]
        exact forall_of_forall₂ hfields fun _ _ hf => WaitField.build_of_accepted hf
      refine ⟨?_, .fields ?_⟩
      · rw [Target.rebuild?, hbuild]
        rfl
      · rw [List.forall₂_map_right_iff, Document.entriesIn_of_part? hpart]
        exact hfields.imp fun _ _ hf => WaitField.isOf_of_ofDocument hf

/-- A condition of no type in particular, and a phase: the phase is tried first. -/
def watchedDocument : Document :=
  .map [(.str "wait", .map [(.str "field", .list [Strategy.phaseDocument])]),
    (.str "error_on", .map [
      (.str "condition", .list [.map [(.str "type", .null), (.str "status", .str "False")]]),
      (.str "field", .list [.map [(.str "key", .str "status.phase"), (.str "value", .str "F.*")]])])]

/-- A block that asks for two things. -/
def twofoldBlock : Document :=
  .map [(.str "rollout", .str "yes"), (.str "field", .list [Strategy.phaseDocument])]

end Config

end Settle

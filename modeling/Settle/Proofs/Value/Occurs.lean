import Mathlib.Tactic.Lemma
import Settle.Path.Walk
import Settle.Value.Shown

/-!
# Values inside of values

A value occurs in another one as a whole, in an item of a list or in an entry of a map. A path
leads to values that occur in the one it starts from. A value in which no integer occurs that is
too large to be written can be shown.
-/

namespace Settle

namespace Value

/-- A value occurs in another one. -/
inductive Occurs (w : Value) : Value → Prop where
  | whole : Occurs w w
  | item {items : List Value} {v : Value} (mem : v ∈ items) (h : Occurs w v) :
      Occurs w (.list items)
  | entry {entries : List (Text × Value)} {key : Text} {v : Value} (mem : (key, v) ∈ entries)
      (h : Occurs w v) : Occurs w (.map entries)

/-- The integers of a value have 4300 digits at most. -/
def Writable (v : Value) : Prop := ∀ n, Occurs (.int n) v → Decimal.tooLong n = false

lemma Occurs.trans {u v w : Value} (h : Occurs u v) (h' : Occurs v w) : Occurs u w := by
  induction h' with
  | whole => exact h
  | item mem _ ih => exact .item mem ih
  | entry mem _ ih => exact .entry mem ih

lemma Writable.of_occurs {v w : Value} (h : v.Writable) (hw : Occurs w v) : w.Writable :=
  fun n hn => h n (hn.trans hw)

section Writable

@[simp] lemma writable_null : Writable .null := by rintro n ⟨⟩

@[simp] lemma writable_bool (b : Bool) : Writable (.bool b) := by rintro n ⟨⟩

@[simp] lemma writable_float (x : Binary64) : Writable (.float x) := by rintro n ⟨⟩

@[simp] lemma writable_str (t : Text) : Writable (.str t) := by rintro n ⟨⟩

@[simp] lemma writable_int_iff {n : Int} : Writable (.int n) ↔ Decimal.tooLong n = false := by
  refine ⟨fun h => h n .whole, fun h m hm => ?_⟩
  cases hm
  exact h

@[simp] lemma writable_list_iff {items : List Value} :
    Writable (.list items) ↔ ∀ v ∈ items, v.Writable := by
  refine ⟨fun h v hv => h.of_occurs (.item hv .whole), fun h n hn => ?_⟩
  obtain - | ⟨mem, hn⟩ := hn
  exact h _ mem n hn

@[simp] lemma writable_map_iff {entries : List (Text × Value)} :
    Writable (.map entries) ↔ ∀ e ∈ entries, e.2.Writable := by
  refine ⟨fun h e he => h.of_occurs (.entry he .whole), fun h n hn => ?_⟩
  obtain - | - | ⟨mem, hn⟩ := hn
  exact h _ mem n hn

end Writable

/-! ### Paths -/

lemma mem_of_lookup {key : Text} {entries : List (Text × Value)} {v : Value}
    (h : lookup key entries = some v) : (key, v) ∈ entries := by
  obtain ⟨before, behind, rfl, -⟩ := List.lookup_eq_some_iff.mp h
  simp

lemma occurs_of_child? {s : Step} {v w : Value} (h : s.child? v = some w) : Occurs w v := by
  cases s <;> cases v <;> simp only [Step.child?, reduceCtorEq] at h
  case field.map | key.map => exact .entry (mem_of_lookup h) .whole
  case index.list => exact .item (List.mem_of_getElem? h) .whole

lemma occurs_of_at? {steps : List Step} {v w : Value} (h : at? steps v = some w) :
    Occurs w v := by
  induction steps generalizing v with
  | nil =>
    cases h
    exact .whole
  | cons s steps ih =>
    obtain ⟨u, hu, hw⟩ := Option.bind_eq_some_iff.mp h
    exact (ih hw).trans (occurs_of_child? hu)

lemma Writable.walk {p : Path} {v w : Value} (h : v.Writable) (hw : p.walk v = some w) :
    w.Writable := h.of_occurs (occurs_of_at? hw)

/-! ### Literals -/

mutual

lemma Writable.exists_literalIn (around : List Text) :
    ∀ {v : Value}, v.Writable → ∃ t, v.toDocument.literalIn around = .ok t
  | .null,    _ => ⟨_, rfl⟩
  | .bool _,  _ => ⟨_, rfl⟩
  | .int n,   h => ⟨Decimal.ofInt n, by
      rw [toDocument, Document.literalIn, Decimal.write, h n .whole, if_neg Bool.false_ne_true]⟩
  | .float _, _ => ⟨_, rfl⟩
  | .str _,   _ => ⟨_, rfl⟩
  | .list vs, h => by
    obtain ⟨ts, hts⟩ := exists_literalsIn ("[...]" :: around) fun v hv =>
      h.of_occurs (.item hv .whole)
    exact ⟨_, by rw [toDocument, Document.literalIn, hts]; rfl⟩
  | .map es,  h => by
    obtain ⟨ts, hts⟩ := exists_entryLiteralsIn ("\x7b...\x7d" :: around) fun e he =>
      h.of_occurs (.entry he .whole)
    exact ⟨_, by rw [toDocument, Document.literalIn, hts]; rfl⟩

lemma exists_literalsIn (around : List Text) : ∀ {vs : List Value}, (∀ v ∈ vs, v.Writable) →
    ∃ ts, Document.literalsIn around (toDocuments vs) = .ok ts
  | [],      _ => ⟨[], rfl⟩
  | v :: vs, h => by
    obtain ⟨t, ht⟩ := (h v List.mem_cons_self).exists_literalIn around
    obtain ⟨ts, hts⟩ := exists_literalsIn around fun w hw => h w (List.mem_cons_of_mem v hw)
    exact ⟨t :: ts, by rw [toDocuments, Document.literalsIn, ht, hts]; rfl⟩

lemma exists_entryLiteralsIn (around : List Text) :
    ∀ {es : List (Text × Value)}, (∀ e ∈ es, e.2.Writable) →
    ∃ ts, Document.entryLiteralsIn around (toDocumentEntries es) = .ok ts
  | [],           _ => ⟨[], rfl⟩
  | (k, v) :: es, h => by
    obtain ⟨t, ht⟩ := (h (k, v) List.mem_cons_self).exists_literalIn around
    obtain ⟨ts, hts⟩ := exists_entryLiteralsIn around fun e he => h e (List.mem_cons_of_mem _ he)
    exact ⟨_, by
      rw [toDocumentEntries, Document.entryLiteralsIn, Document.literalIn, ht, hts]; rfl⟩

end

/-- Such a value can be shown. -/
theorem Writable.exists_shown {v : Value} (h : v.Writable) : ∃ t, v.shown = .ok t := by
  cases v with
  | str t => exact ⟨t, rfl⟩
  | _ => exact h.exists_literalIn []

end Value

end Settle

import Settle.Proofs.Except
import Settle.Proofs.Poll.Replies
import Settle.Proofs.Shape.Navigation
import Settle.Proofs.Strategy.Bookkeeping
import Settle.Wait.Poll

/-!
# Entries that are not declared

An object shape declares attributes, and conversion takes no others. So entries that are not
declared where they stand can be erased before conversion, at any depth, and two values that become
equal in this way are converted alike or fail alike. A wait for fields reads objects through its
shape only, and cannot tell such values apart either.
-/

namespace Settle

namespace Shape

/-- The attributes of each object shape have different names. -/
inductive Proper : Shape → Prop where
  | any : Proper .any
  | string : Proper .string
  | number : Proper .number
  | bool : Proper .bool
  | list {item : Shape} (h : Proper item) : Proper (.list item)
  | map {entry : Shape} (h : Proper entry) : Proper (.map entry)
  | object {as : List (Text × Shape)} (names : (as.map Prod.fst).Nodup)
      (attributes : ∀ a ∈ as, Proper a.2) : Proper (.object as)

mutual

/-- A value without the entries that an object shape at their place does not declare. -/
def erase : Shape → Value → Value
  | .list item, .list vs => .list (vs.map (erase item))
  | .map entry, .map es  => .map (es.map fun e => (e.1, erase entry e.2))
  | .object as, .map es  => .map (es.filterMap (eraseEntry as))
  | _,          v        => v

/-- An entry of an object, if it is declared. -/
def eraseEntry : List (Text × Shape) → Text × Value → Option (Text × Value)
  | [],                 _ => none
  | (name, shape) :: as, e =>
    if e.1 = name then some (name, erase shape e.2) else eraseEntry as e

end

/-! ### Erased entries -/

section Entries

variable {as : List (Text × Shape)}

lemma eraseEntry_of_mem (hnames : (as.map Prod.fst).Nodup) {name : Text} {shape : Shape}
    (h : (name, shape) ∈ as) (v : Value) :
    eraseEntry as (name, v) = some (name, shape.erase v) := by
  induction as with
  | nil => cases h
  | cons a as ih =>
    obtain ⟨declared, sub⟩ := a
    rw [List.map_cons, List.nodup_cons] at hnames
    rw [eraseEntry]
    rcases List.mem_cons.mp h with heq | hmem
    · obtain ⟨rfl, rfl⟩ := Prod.mk.inj heq
      rw [if_pos rfl]
    · have hne : name ≠ declared := by
        rintro rfl
        exact hnames.1 (List.mem_map.mpr ⟨_, hmem, rfl⟩)
      rw [if_neg hne, ih hnames.2 hmem]

/-- An entry keeps its key. -/
lemma fst_of_eraseEntry {e e' : Text × Value} (h : eraseEntry as e = some e') : e'.1 = e.1 := by
  induction as with
  | nil =>
    rw [eraseEntry] at h
    cases h
  | cons a as ih =>
    obtain ⟨name, shape⟩ := a
    rw [eraseEntry] at h
    split at h
    · next heq =>
      cases h
      exact heq.symm
    · exact ih h

/-- What is declared is found afterwards, erased by its own shape. -/
lemma lookup_eraseEntry (hnames : (as.map Prod.fst).Nodup) {name : Text} {shape : Shape}
    (h : (name, shape) ∈ as) (es : List (Text × Value)) :
    Value.lookup name (es.filterMap (eraseEntry as))
      = (Value.lookup name es).map shape.erase := by
  induction es with
  | nil => rfl
  | cons e es ih =>
    obtain ⟨key, v⟩ := e
    rw [Value.lookup] at ih ⊢
    by_cases hkey : name = key
    · subst hkey
      rw [List.filterMap_cons_some (eraseEntry_of_mem hnames h v)]
      simp [Value.lookup]
    · have hbeq : (name == key) = false := beq_false_of_ne hkey
      rw [Value.lookup, List.lookup_cons, hbeq]
      cases hentry : eraseEntry as (key, v) with
      | none => rwa [List.filterMap_cons_none hentry]
      | some e' =>
        obtain ⟨key', w⟩ := e'
        obtain rfl : key' = key := fst_of_eraseEntry hentry
        rwa [List.filterMap_cons_some hentry, List.lookup_cons, hbeq]

end Entries

/-! ### Conversion of what is left -/

section Convert

variable {hints : Hints}

lemma convertAttributes_erase {path : Text} {as declared : List (Text × Shape)}
    (hnames : (declared.map Prod.fst).Nodup) (hsub : as ⊆ declared)
    (ih : ∀ a ∈ declared, ∀ path v, a.2.convert hints path (a.2.erase v) = a.2.convert hints path v)
    (es : List (Text × Value)) :
    convertAttributes hints path as (es.filterMap (eraseEntry declared))
      = convertAttributes hints path as es := by
  induction as with
  | nil => rw [convertAttributes, convertAttributes]
  | cons a as ih' =>
    obtain ⟨name, shape⟩ := a
    obtain ⟨hmem, hsub⟩ := List.cons_subset.mp hsub
    rw [convertAttributes, convertAttributes, lookup_eraseEntry hnames hmem, ih' hsub]
    cases Value.lookup name es with
    | none => rfl
    | some v =>
      have hconvert := ih (name, shape) hmem (join path name) v
      simp only [Option.map_some, hconvert]

/-- Conversion does not take what is erased. -/
lemma convert_erase {shape : Shape} (h : shape.Proper) (path : Text) (v : Value) :
    shape.convert hints path (shape.erase v) = shape.convert hints path v := by
  induction h generalizing path v with
  | any | string | number | bool => simp [erase]
  | @list item _ ih =>
    cases v with
    | list vs =>
      have hitems : (vs.map item.erase).mapM (convert hints path item)
          = vs.mapM (convert hints path item) := by
        rw [List.mapM_map]
        exact congrArg (vs.mapM ·) (funext fun v => ih path v)
      rw [erase, convert, convert, hitems]
    | _ => simp [erase]
  | @map entry _ ih =>
    cases v with
    | map es =>
      have hentries : (es.map fun e => (e.1, entry.erase e.2)).mapM
            (fun e => (convert hints path entry e.2).map (e.1, ·))
          = es.mapM (fun e => (convert hints path entry e.2).map (e.1, ·)) := by
        rw [List.mapM_map]
        refine congrArg (es.mapM ·) (funext fun e => ?_)
        rw [Function.comp_apply, ih]
      rw [erase, convert, convert, hentries]
    | _ => simp [erase]
  | object names _ ih =>
    cases v with
    | map es =>
      rw [erase, convert, convert, convertAttributes_erase names (List.Subset.refl _) ih]
    | _ => simp [erase]

/-- Values that are equal but for what is not declared are converted alike, or fail alike. -/
lemma convert_eq_of_erase_eq {shape : Shape} (h : shape.Proper) (path : Text) {v w : Value}
    (heq : shape.erase v = shape.erase w) :
    shape.convert hints path v = shape.convert hints path w := by
  rw [← convert_erase h path v, heq, convert_erase h path w]

end Convert

/-! ### Bookkeeping -/

section Bookkeeping

open Strategy (strip stripEntry stripMetadata)

/-- Entries that are taken away by their keys may be taken away before. -/
lemma filterMap_eraseEntry_filter (as : List (Text × Shape)) (keep : Text → Bool)
    (es : List (Text × Value)) :
    (es.filter fun e => keep e.1).filterMap (eraseEntry as)
      = (es.filterMap (eraseEntry as)).filter fun e => keep e.1 := by
  rw [List.filterMap_filter, List.filter_filterMap]
  congr 1
  funext e
  cases h : eraseEntry as e with
  | none => simp
  | some e' => simp [Option.filter, fst_of_eraseEntry h]

lemma erase_stripMetadata (shape : Shape) (v : Value) :
    shape.erase (stripMetadata v) = stripMetadata (shape.erase v) := by
  cases v with
  | map es =>
    cases shape with
    | map entry => simp [erase, stripMetadata, List.filter_map, Function.comp_def]
    | object as =>
      have hfilter := filterMap_eraseEntry_filter as (fun k => k ≠ Strategy.bookkeeping) es
      rw [stripMetadata, erase, erase, stripMetadata, hfilter]
    | _ => simp [erase, stripMetadata]
  | _ => cases shape <;> simp [erase, stripMetadata]

lemma stripEntry_erase (shape : Shape) (key : Text) (v : Value) :
    stripEntry (key, shape.erase v) = (key, shape.erase (stripEntry (key, v)).2) := by
  simp only [stripEntry]
  split
  · rw [erase_stripMetadata]
  · rfl

lemma eraseEntry_stripEntry (as : List (Text × Shape)) (e : Text × Value) :
    eraseEntry as (stripEntry e) = (eraseEntry as e).map stripEntry := by
  induction as with
  | nil => rw [eraseEntry, eraseEntry, Option.map_none]
  | cons a as ih =>
    obtain ⟨name, shape⟩ := a
    obtain ⟨key, v⟩ := e
    rw [eraseEntry, eraseEntry, Strategy.stripEntry_fst, ih]
    by_cases h : key = name
    · subst h
      rw [if_pos rfl, if_pos rfl, Option.map_some, stripEntry_erase]
    · rw [if_neg h, if_neg h]

/-- Stripping and erasing may be done in either order. -/
lemma strip_erase (shape : Shape) (v : Value) :
    strip (shape.erase v) = (strip v).map shape.erase := by
  cases v with
  | map es =>
    cases shape with
    | map entry =>
      have hentry : ∀ e : Text × Value, stripEntry (e.1, entry.erase e.2)
          = (e.1, entry.erase (stripEntry e).2) := fun e => stripEntry_erase entry e.1 e.2
      simp [erase, Strategy.strip_map, Except.map, hentry]
    | object as =>
      simp [erase, Strategy.strip_map, Except.map, List.map_filterMap, List.filterMap_map,
        eraseEntry_stripEntry]
    | _ => simp [erase, Strategy.strip_map, Except.map]
  | _ => cases shape <;> simp [erase, Strategy.strip, Except.map]

end Bookkeeping

end Shape

/-! ### Waits -/

namespace Strategy

/-- Whether all fields hold does not depend on what is not declared. -/
lemma isDone_eq_of_erase_eq {shape? : Option Shape} (hshape : (shape?.getD .any).Proper)
    (hints : Hints) (matchers : List Matcher) {v w : Value}
    (h : (shape?.getD .any).erase v = (shape?.getD .any).erase w) :
    isDone v (.fields matchers shape? hints) = isDone w (.fields matchers shape? hints) := by
  have hstrip : (strip v).map (shape?.getD .any).erase
      = (strip w).map (shape?.getD .any).erase := by
    rw [← Shape.strip_erase, h, Shape.strip_erase]
  rw [isDone, isDone]
  obtain ⟨e, hv, hw⟩ | ⟨v', w', hv, hw, herase⟩ := map_eq_map_iff.mp hstrip
  · rw [hv, hw]
  · rw [hv, hw, ok_bind, ok_bind, Shape.convert_eq_of_erase_eq hshape [] herase]

end Strategy

namespace Shape

/-- Of a pod only the phase is declared. -/
def phaseShape : Shape := .object [("status", .object [("phase", .string)])]

def phaseObject : Value := .map [("status", .map [("phase", .str "Running")])]

/-- The same phase among other things. -/
def podObject : Value :=
  .map [("kind", .str "Pod"),
    ("status", .map [("podIP", .str "10.1.2.3"), ("phase", .str "Running")])]

/-- Any text will do for the phase. -/
def phaseMatcher : Matcher := ⟨⟨[.field "status", .field "phase"]⟩, ⟨[], .empty⟩⟩

def phasePoll : Poll Binary64 :=
  ⟨.state (.fields [phaseMatcher] (some phaseShape) []), "web", .never, .ofNat 1⟩

lemma phaseShape_proper : phaseShape.Proper := by
  refine .object (List.pairwise_singleton _ _) fun a ha => ?_
  rw [List.mem_singleton.mp ha]
  refine .object (List.pairwise_singleton _ _) fun a ha => ?_
  rw [List.mem_singleton.mp ha]
  exact .string

end Shape

end Settle

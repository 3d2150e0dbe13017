import Settle.Proofs.Shape.Erasure
import Settle.Proofs.Shape.Projection

/-!
# Conversion twice

A converted value is its own conversion: what a shape does not declare is gone, the entries stand in
the order of the attributes, and integers that a hint allows have become texts. So it fits its shape
everywhere, and for this it does not need any hint.
-/

namespace Settle

namespace Shape

variable {hints : Hints} {path : Text}

/-! ### Attributes -/

section Attributes

variable {as : List (Text × Shape)} {es fs : List (Text × Value)} {name : Text}

/-- Of the entries, only those that are declared count. -/
lemma convertAttributes_congr (h : ∀ a ∈ as, Value.lookup a.1 es = Value.lookup a.1 fs) :
    convertAttributes hints path as es = convertAttributes hints path as fs := by
  induction as with
  | nil => rfl
  | cons a as ih =>
    obtain ⟨hfirst, hrest⟩ := List.forall_mem_cons.mp h
    rw [convertAttributes, convertAttributes, hfirst, ih hrest]

lemma convertAttributes_cons_of_not_declared (hname : name ∉ as.map Prod.fst) (v : Value) :
    convertAttributes hints path as ((name, v) :: es) = convertAttributes hints path as es := by
  refine convertAttributes_congr fun a ha => ?_
  have hne : a.1 ≠ name := by
    rintro rfl
    exact hname (List.mem_map_of_mem ha)
  rw [Value.lookup, List.lookup_cons, beq_false_of_ne hne, Value.lookup]

lemma lookup_of_not_declared (hname : name ∉ as.map Prod.fst)
    (h : convertAttributes hints path as es = .ok fs) : Value.lookup name fs = none := by
  refine (lookup_convertAttributes h name).1 (List.lookup_eq_none_iff.mpr fun a ha => ?_)
  rw [bne_iff_ne]
  rintro rfl
  exact hname (List.mem_map_of_mem ha)

end Attributes

/-! ### Values -/

section Again

variable (hints' : Hints)

lemma convert_convertString {v typed : Value} (h : convertString hints path v = .ok typed)
    (path' : Text) : convert hints' path' .string typed = .ok typed := by
  cases v with
  | str t =>
    cases h
    rfl
  | int n =>
    rw [convertString] at h
    split at h
    · obtain ⟨t, -, rfl⟩ := map_eq_ok_iff.mp h
      rfl
    · cases h
  | _ => cases h

mutual

/-- What is converted already stays as it is, whatever the hints and the attribute path are then. -/
lemma convert_again {shape : Shape} (hproper : shape.Proper) {path : Text} {raw typed : Value}
    (h : convert hints path shape raw = .ok typed) (path' : Text) :
    convert hints' path' shape typed = .ok typed := by
  by_cases hnull : raw = .null
  · subst hnull
    rw [convert_null] at h
    cases h
    exact convert_null shape
  match shape with
  | .any =>
    rw [convert_any] at h
    cases h
    exact convert_any raw
  | .string =>
    cases raw with
    | null => exact absurd rfl hnull
    | _ => exact convert_convertString hints' h path'
  | .number | .bool =>
    cases raw <;> cases h <;> rfl
  | .list item =>
    cases raw with
    | null => exact absurd rfl hnull
    | list vs =>
      obtain ⟨ws, hws, rfl⟩ := map_eq_ok_iff.mp h
      have hitem : item.Proper := by
        cases hproper
        assumption
      have hagain : ws.mapM (convert hints' path' item) = .ok ws :=
        mapM_results hws fun _ _ hw => convert_again hitem hw path'
      rw [convert, hagain]
      rfl
    | _ => cases h
  | .map entry =>
    cases raw with
    | null => exact absurd rfl hnull
    | map es =>
      obtain ⟨fs, hfs, rfl⟩ := map_eq_ok_iff.mp h
      have hentry : entry.Proper := by
        cases hproper
        assumption
      have hagain : (fs.mapM fun e => (convert hints' path' entry e.2).map (e.1, ·)) = .ok fs := by
        refine mapM_results hfs fun e f hf => ?_
        obtain ⟨-, hvalue⟩ := entry_eq_ok_iff.mp hf
        exact entry_eq_ok_iff.mpr ⟨rfl, convert_again hentry hvalue path'⟩
      rw [convert, hagain]
      rfl
    | _ => cases h
  | .object as =>
    cases raw with
    | null => exact absurd rfl hnull
    | map es =>
      obtain ⟨fs, hfs, rfl⟩ := map_eq_ok_iff.mp h
      obtain ⟨hnames, hattributes⟩ : (as.map Prod.fst).Nodup ∧ ∀ a ∈ as, Proper a.2 := by
        cases hproper
        exact ⟨‹_›, ‹_›⟩
      rw [convert, convertAttributes_again hnames hattributes hfs path']
      rfl
    | _ => cases h

lemma convertAttributes_again {as : List (Text × Shape)} (hnames : (as.map Prod.fst).Nodup)
    (hproper : ∀ a ∈ as, Proper a.2) {path : Text} {es fs : List (Text × Value)}
    (h : convertAttributes hints path as es = .ok fs) (path' : Text) :
    convertAttributes hints' path' as fs = .ok fs := by
  match as with
  | [] =>
    cases h
    rfl
  | (name, shape) :: as =>
    rw [List.map_cons, List.nodup_cons] at hnames
    obtain ⟨hname, hnames⟩ := hnames
    obtain ⟨hshape, hrest⟩ := List.forall_mem_cons.mp hproper
    rw [convertAttributes] at h
    split at h
    · rw [convertAttributes, lookup_of_not_declared hname h]
      exact convertAttributes_again hnames hrest h path'
    · next v hfound =>
      obtain ⟨w, hw, h⟩ := bind_eq_ok_iff.mp h
      obtain ⟨gs, hgs, h⟩ := bind_eq_ok_iff.mp h
      cases h
      -- The first attribute finds its own entry, and the others find theirs behind it.
      have hfound : Value.lookup name ((name, w) :: gs) = some w := List.lookup_cons_self
      have hw := convert_again hshape hw (join path' name)
      have hgs := convertAttributes_again hnames hrest hgs path'
      rw [convertAttributes, hfound, convertAttributes_cons_of_not_declared hname, hgs]
      simp only [hw]
      rfl

end

end Again

/-- Conversion is idempotent: a converted value is converted to itself, with its entries in the same
order, and it fits its shape at every place. The hints and the attribute path of the second
conversion may be those of the first one, or any others. -/
theorem conversion_is_idempotent {shape : Shape} (hproper : shape.Proper) {hints : Hints}
    {path : Text} {raw typed : Value} (h : convert hints path shape raw = .ok typed)
    (hints' : Hints) (path' : Text) :
    convert hints' path' shape typed = .ok typed ∧
      ∀ p, Place.Reaches ⟨path', shape, typed⟩ p → p.fits hints' := by
  have hagain := convert_again hints' hproper h path'
  refine ⟨hagain, fun p hp => ?_⟩
  exact ((convert_eq_ok_iff.mp hagain).1 p (mem_places_iff.mpr hp)).1

/-! ### A service -/

/-- A service of which a port, a name and labels are declared. -/
def webShape : Shape :=
  .object [("port", .string), ("name", .string), ("labels", .map .string)]

def webHints : Hints := [("port", intOrString)]

def webRaw : Value :=
  .map [("name", .str "web"), ("age", .int 3), ("labels", .map [("b", .str "1"), ("a", .null)]),
    ("port", .int 80)]

def webTyped : Value :=
  .map [("port", .str "80"), ("name", .str "web"),
    ("labels", .map [("b", .str "1"), ("a", .null)])]

lemma webShape_proper : webShape.Proper := by
  refine .object (by decide) ?_
  simp only [List.forall_mem_cons]
  exact ⟨.string, .string, .map .string, nofun⟩

/-- The port becomes a text, the age is left out and the name comes second, all of it once: after
that no hint is needed. -/
theorem webTyped_stays :
    webShape.Proper ∧ convert webHints [] webShape webRaw = .ok webTyped ∧
      convert webHints [] webShape webTyped = .ok webTyped ∧
      convert [] [] webShape webTyped = .ok webTyped := by
  have hport : Decimal.ofInt 80 = "80" := by decide +kernel
  have hproject : webShape.project webRaw = webTyped := by
    rw [webTyped, ← hport]
    rfl
  have hconvert : convert webHints [] webShape webRaw = .ok webTyped :=
    convert_eq_ok_iff.mpr ⟨by decide +kernel, hproject.symm⟩
  have hagain := conversion_is_idempotent webShape_proper hconvert
  exact ⟨webShape_proper, hconvert, (hagain webHints []).1, (hagain [] []).1⟩

end Shape

end Settle

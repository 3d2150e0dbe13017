import Settle.Path.Walk
import Settle.Proofs.Except
import Settle.Shape

/-!
# Walking in converted values

A path leads to the same place before and after conversion: where the shape has a place for it, it
finds the conversion of what it found before, at the shape and the attribute path of that place.
Anywhere else it finds nothing.
-/

namespace Settle

/-! ### Related places -/

section Related

variable {α β : Type} {R : α → β → Prop}

lemma rel_getElem? {as : List α} {bs : List β} (h : List.Forall₂ R as bs) (n : Nat) :
    Option.Rel R as[n]? bs[n]? := by
  induction h generalizing n with
  | nil => exact .none
  | cons hab _ ih =>
    cases n with
    | zero => exact .some hab
    | succ n => simpa using ih n

lemma rel_lookup {as : List (Text × α)} {bs : List (Text × β)} (key : Text)
    (h : List.Forall₂ (fun a b => a.1 = b.1 ∧ R a.2 b.2) as bs) :
    Option.Rel R (as.lookup key) (bs.lookup key) := by
  induction h with
  | nil => exact .none
  | @cons a b as bs hab _ ih =>
    obtain ⟨k, x⟩ := a
    obtain ⟨k', y⟩ := b
    obtain ⟨hk, hxy⟩ := hab
    obtain rfl : k = k' := hk
    rw [List.lookup_cons, List.lookup_cons]
    split
    · exact .some hxy
    · exact ih

lemma exists_of_rel_some {a : Option α} {y : β} (h : Option.Rel R a (some y)) :
    ∃ x, a = some x ∧ R x y := by
  cases h with
  | some hxy => exact ⟨_, rfl, hxy⟩

lemma exists_of_some_rel {x : α} {b : Option β} (h : Option.Rel R (some x) b) :
    ∃ y, b = some y := by
  cases h
  exact ⟨_, rfl⟩

lemma eq_none_of_rel {b : Option β} (h : Option.Rel R none b) : b = none := by
  cases h
  rfl

lemma rel_self {R : α → α → Prop} (h : ∀ a, R a a) (o : Option α) : Option.Rel R o o := by
  cases o with
  | none => exact .none
  | some a => exact .some (h a)

end Related

namespace Shape

/-! ### The shape at a place -/

/-- The shape of the child that a step leads to, and the attribute path there. Everything below a
value of any shape has any shape. -/
def child? (path : Text) : Shape → Step → Option (Shape × Text)
  | .any,       _           => some (.any, path)
  | .list item, .index _    => some (item, path)
  | .map entry, .field _    => some (entry, path)
  | .map entry, .key _      => some (entry, path)
  | .object as, .field name => (as.lookup name).map (·, join path name)
  | .object as, .key name   => (as.lookup name).map (·, join path name)
  | _,          _           => none

/-- The shape at the end of a row of steps, and the attribute path there. -/
def at? (path : Text) : List Step → Shape → Option (Shape × Text)
  | [],        shape => some (shape, path)
  | s :: rest, shape => (shape.child? path s).bind fun (sub, path) => at? path rest sub

/-! ### Conversion, one level at a time -/

section Convert

variable {hints : Hints} {path : Text}

lemma convert_null (shape : Shape) : convert hints path shape .null = .ok .null := by
  rw [convert]

lemma convert_any (v : Value) : convert hints path .any v = .ok v := by
  cases v with
  | null => exact convert_null .any
  | _ => rw [convert]; exact nofun

lemma entry_eq_ok_iff {entry : Shape} {e e' : Text × Value} :
    (convert hints path entry e.2).map (e.1, ·) = .ok e' ↔
      e.1 = e'.1 ∧ convert hints path entry e.2 = .ok e'.2 := by
  rw [map_eq_ok_iff]
  constructor
  · rintro ⟨v, hv, rfl⟩
    exact ⟨rfl, hv⟩
  · rintro ⟨hkey, hv⟩
    exact ⟨e'.2, hv, Prod.ext hkey rfl⟩

/-- An attribute is there afterwards exactly if it is declared and was there before. -/
lemma lookup_convertAttributes {as : List (Text × Shape)} {es fs : List (Text × Value)}
    (h : convertAttributes hints path as es = .ok fs) (name : Text) :
    (as.lookup name = none → Value.lookup name fs = none) ∧
      (∀ sub, as.lookup name = some sub →
        Option.Rel (fun v w => convert hints (join path name) sub v = .ok w)
          (Value.lookup name es) (Value.lookup name fs)) := by
  induction as generalizing fs with
  | nil =>
    cases h
    exact ⟨fun _ => rfl, nofun⟩
  | cons a as ih =>
    obtain ⟨declared, shape⟩ := a
    rw [convertAttributes] at h
    split at h
    · next hmissing =>
      obtain ⟨hnone, hsome⟩ := ih h
      rw [List.lookup_cons]
      split
      · next heq =>
        -- The attribute is not there before, whether it is declared once more or not.
        obtain rfl : name = declared := eq_of_beq heq
        have hgone : Value.lookup name fs = none := by
          cases hlater : as.lookup name with
          | none => exact hnone hlater
          | some later =>
            exact eq_none_of_rel (hmissing ▸ hsome later hlater)
        refine ⟨nofun, fun sub _ => ?_⟩
        rw [hmissing, hgone]
        exact .none
      · exact ⟨hnone, hsome⟩
    · next v hfound =>
      obtain ⟨w, hw, hrest⟩ := bind_eq_ok_iff.mp h
      obtain ⟨fs', hfs', hfs⟩ := bind_eq_ok_iff.mp hrest
      cases hfs
      obtain ⟨hnone, hsome⟩ := ih hfs'
      rw [Value.lookup, Value.lookup, List.lookup_cons, List.lookup_cons]
      split
      · next heq =>
        obtain rfl : name = declared := eq_of_beq heq
        refine ⟨nofun, fun sub hsub => ?_⟩
        cases hsub
        rw [show es.lookup name = some v from hfound]
        exact .some hw
      · exact ⟨hnone, hsome⟩

/-- What conversion makes of a value, by the kind of its shape. -/
inductive Projects (hints : Hints) (path : Text) : Shape → Value → Value → Prop where
  | null (shape : Shape) : Projects hints path shape .null .null
  | any (v : Value) : Projects hints path .any v v
  | leaf {shape : Shape} {v w : Value} (shape_leaf : ∀ s, shape.child? path s = none)
      (leaf : ∀ s : Step, s.child? w = none) : Projects hints path shape v w
  | list {item : Shape} {vs ws : List Value}
      (items : List.Forall₂ (fun v w => convert hints path item v = .ok w) vs ws) :
      Projects hints path (.list item) (.list vs) (.list ws)
  | map {entry : Shape} {es fs : List (Text × Value)}
      (entries : List.Forall₂
        (fun e f => e.1 = f.1 ∧ convert hints path entry e.2 = .ok f.2) es fs) :
      Projects hints path (.map entry) (.map es) (.map fs)
  | object {as : List (Text × Shape)} {es fs : List (Text × Value)}
      (attributes : convertAttributes hints path as es = .ok fs) :
      Projects hints path (.object as) (.map es) (.map fs)

lemma child?_str (s : Step) (t : Text) : s.child? (.str t) = none := by cases s <;> rfl

lemma convertString_leaf {v w : Value} (h : convertString hints path v = .ok w) (s : Step) :
    s.child? w = none := by
  cases v with
  | str t =>
    cases h
    exact child?_str s t
  | int n =>
    rw [convertString] at h
    split at h
    · obtain ⟨t, -, rfl⟩ := map_eq_ok_iff.mp h
      exact child?_str s t
    · cases h
  | _ => cases h

lemma convertNumber_leaf {v w : Value} (h : convertNumber path v = .ok w) (s : Step) :
    s.child? w = none := by
  cases v with
  | int | float =>
    cases h
    cases s <;> rfl
  | _ => cases h

lemma convertBool_leaf {v w : Value} (h : convertBool path v = .ok w) (s : Step) :
    s.child? w = none := by
  cases v with
  | bool =>
    cases h
    cases s <;> rfl
  | _ => cases h

lemma projects_of_convert {shape : Shape} {v w : Value} (h : convert hints path shape v = .ok w) :
    Projects hints path shape v w := by
  by_cases hnull : v = .null
  · subst hnull
    rw [convert_null] at h
    cases h
    exact .null shape
  cases shape with
  | any =>
    rw [convert_any] at h
    cases h
    exact .any v
  | string =>
    rw [convert.eq_3 _ _ _ hnull] at h
    exact .leaf (fun s => by cases s <;> rfl) (convertString_leaf h)
  | number =>
    rw [convert.eq_4 _ _ _ hnull] at h
    exact .leaf (fun s => by cases s <;> rfl) (convertNumber_leaf h)
  | bool =>
    rw [convert.eq_5 _ _ _ hnull] at h
    exact .leaf (fun s => by cases s <;> rfl) (convertBool_leaf h)
  | list item =>
    cases v with
    | list vs =>
      rw [convert] at h
      obtain ⟨ws, hws, rfl⟩ := map_eq_ok_iff.mp h
      exact .list (mapM_eq_ok_iff.mp hws)
    | _ => rw [convert.eq_7 _ _ _ _ hnull nofun] at h; cases h
  | map entry =>
    cases v with
    | map es =>
      rw [convert] at h
      obtain ⟨fs, hfs, rfl⟩ := map_eq_ok_iff.mp h
      refine .map ((mapM_eq_ok_iff.mp hfs).imp ?_)
      exact fun _ _ => entry_eq_ok_iff.mp
    | _ => rw [convert.eq_9 _ _ _ _ hnull nofun] at h; cases h
  | object as =>
    cases v with
    | map es =>
      rw [convert] at h
      obtain ⟨fs, hfs, rfl⟩ := map_eq_ok_iff.mp h
      exact .object hfs
    | _ => rw [convert.eq_11 _ _ _ _ hnull nofun] at h; cases h

/-! ### Steps and paths -/

/-- Where the shape has no place, nothing is there afterwards. -/
lemma child?_eq_none {shape : Shape} {v w : Value} {s : Step}
    (h : convert hints path shape v = .ok w) (hshape : shape.child? path s = none) :
    s.child? w = none := by
  cases projects_of_convert h with
  | null => cases s <;> rfl
  | any => cases hshape
  | leaf _ leaf => exact leaf s
  | list =>
    cases s with
    | index n => cases hshape
    | field | key => rfl
  | map =>
    cases s with
    | index n => rfl
    | field | key => cases hshape
  | object attributes =>
    cases s with
    | index n => rfl
    | field name | key name =>
      exact (lookup_convertAttributes attributes name).1 (Option.map_eq_none_iff.mp hshape)

/-- Where the shape has a place, what is there afterwards is the conversion of what was there
before. -/
lemma child?_rel {shape sub : Shape} {v w : Value} {s : Step} {path' : Text}
    (h : convert hints path shape v = .ok w) (hshape : shape.child? path s = some (sub, path')) :
    Option.Rel (fun v w => convert hints path' sub v = .ok w) (s.child? v) (s.child? w) := by
  cases projects_of_convert h with
  | null =>
    have hnone : s.child? .null = none := by cases s <;> rfl
    rw [hnone]
    exact .none
  | any =>
    cases hshape
    exact rel_self convert_any _
  | leaf shape_leaf =>
    rw [shape_leaf s] at hshape
    cases hshape
  | list items =>
    cases s with
    | index n =>
      cases hshape
      exact rel_getElem? items n
    | field | key => cases hshape
  | map entries =>
    cases s with
    | index n => cases hshape
    | field name | key name =>
      cases hshape
      exact rel_lookup name entries
  | object attributes =>
    cases s with
    | index n => cases hshape
    | field name | key name =>
      obtain ⟨sub', hsub, heq⟩ := Option.map_eq_some_iff.mp hshape
      cases heq
      exact (lookup_convertAttributes attributes name).2 sub hsub

lemma at?_eq_none {shape : Shape} {v w : Value} {steps : List Step}
    (h : convert hints path shape v = .ok w) (hshape : shape.at? path steps = none) :
    Value.at? steps w = none := by
  induction steps generalizing path shape v w with
  | nil => cases hshape
  | cons s steps ih =>
    rw [Value.at?]
    rw [at?] at hshape
    cases hchild : shape.child? path s with
    | none => rw [child?_eq_none h hchild, Option.bind_none]
    | some place =>
      obtain ⟨sub, path'⟩ := place
      rw [hchild, Option.bind_some] at hshape
      have hrel := child?_rel h hchild
      generalize s.child? v = v?, s.child? w = w? at hrel ⊢
      cases hrel with
      | none => rfl
      | some hconvert => exact ih hconvert hshape

lemma at?_rel {shape sub : Shape} {v w : Value} {steps : List Step} {path' : Text}
    (h : convert hints path shape v = .ok w) (hshape : shape.at? path steps = some (sub, path')) :
    Option.Rel (fun v w => convert hints path' sub v = .ok w)
      (Value.at? steps v) (Value.at? steps w) := by
  induction steps generalizing path shape v w with
  | nil =>
    cases hshape
    exact .some h
  | cons s steps ih =>
    rw [Value.at?, Value.at?]
    obtain ⟨⟨sub', path''⟩, hchild, hrest⟩ := Option.bind_eq_some_iff.mp hshape
    have hrel := child?_rel h hchild
    generalize s.child? v = v?, s.child? w = w? at hrel ⊢
    cases hrel with
    | none => exact .none
    | some hconvert => exact ih hconvert hrest

/-- What a path finds in a converted value is the conversion of what it finds in the value itself,
at the shape and the attribute path that it leads to; and what it finds in the value itself is
there after conversion, where the shape has a place for it. -/
theorem walk_convert {shape : Shape} {raw typed : Value}
    (h : convert hints path shape raw = .ok typed) (p : Path) :
    (∀ v, p.walk typed = some v → ∃ r sub path', p.walk raw = some r ∧
        shape.at? path p.steps = some (sub, path') ∧ convert hints path' sub r = .ok v) ∧
      (∀ r, p.walk raw = some r → (shape.at? path p.steps).isSome →
        ∃ v, p.walk typed = some v) := by
  constructor
  · intro v hv
    rw [Path.walk] at hv
    cases hshape : shape.at? path p.steps with
    | none =>
      rw [at?_eq_none h hshape] at hv
      cases hv
    | some place =>
      obtain ⟨sub, path'⟩ := place
      have hrel := at?_rel h hshape
      rw [hv] at hrel
      obtain ⟨r, hr, hconvert⟩ := exists_of_rel_some hrel
      exact ⟨r, sub, path', hr, rfl, hconvert⟩
  · intro r hr hsome
    obtain ⟨⟨sub, path'⟩, hshape⟩ := Option.isSome_iff_exists.mp hsome
    have hrel := at?_rel h hshape
    rw [Path.walk] at hr
    rw [hr] at hrel
    exact exists_of_some_rel hrel

end Convert

/-! ### A port -/

/-- The ports of a service: only their numbers matter. -/
def portShape : Shape := .object [("ports", .list (.object [("port", .string)]))]

def portHints : Hints := [("ports.port", intOrString)]

def portRaw : Value := .map [("ports", .list [.map [("name", .str "web"), ("port", .int 80)]])]

def portTyped : Value := .map [("ports", .list [.map [("port", .str "80")]])]

def portPath : Path := ⟨[.field "ports", .index 0, .field "port"]⟩

/-- The number of a port becomes a text, and stays where it was. -/
theorem portTyped_holds_number :
    convert portHints [] portShape portRaw = .ok portTyped ∧
      ∃ r sub path, portPath.walk portRaw = some r ∧
        portShape.at? [] portPath.steps = some (sub, path) ∧
        convert portHints path sub r = .ok (.str "80") := by
  have hwrite : Decimal.write 80 = .ok "80" := by decide +kernel
  have hport : convertString portHints (join (join [] "ports") "port") (.int 80)
      = .ok (.str "80") := by
    rw [convertString, if_pos (by rfl), hwrite]
    rfl
  have hname : (("port" : Text) == ("name" : Text)) = false := by rfl
  have hconvert : convert portHints [] portShape portRaw = .ok portTyped := by
    simp only [portShape, portRaw, convert, convertAttributes, Value.lookup, List.lookup_cons,
      hname, beq_self_eq_true, List.mapM_cons, List.mapM_nil, hport]
    rfl
  exact ⟨hconvert, (walk_convert hconvert portPath).1 (.str "80") rfl⟩

end Shape

end Settle

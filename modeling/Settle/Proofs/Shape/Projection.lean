import Mathlib.Logic.Relation
import Settle.Proofs.Except
import Settle.Proofs.Shape.Navigation
import Settle.Proofs.Value.Occurs
import Settle.Shape

/-!
# Values that fit a shape

Conversion comes to a row of places, one after another: a value comes before what is inside of it.
A value that fits its shape at every place is projected, and otherwise the first place that stops
conversion is reported. A place stops it if what is there does not fit, or if an integer there would
become a text but has too many digits.
-/

namespace Settle

namespace Shape

/-- A place that conversion comes to: the attribute path, the shape and the value there. -/
structure Place where
  path  : Text
  shape : Shape
  value : Value

/-! ### What fits -/

/-- What a shape asks for, in messages. -/
def noun : Shape → Text
  | .any      => "anything"
  | .string   => "string"
  | .number   => "number"
  | .bool     => "bool"
  | .list _   => "list"
  | .map _    => "map"
  | .object _ => "map"

namespace Place

/-- The value has the type that the shape asks for. Null has every type, and everything has any
type; an integer is a text where a hint says so, and a boolean is no number. -/
def fits (hints : Hints) (p : Place) : Bool :=
  match p.shape, p.value with
  | _,         .null    => true
  | .any,      _        => true
  | .string,   .str _   => true
  | .string,   .int _   => hints.lookup p.path = some intOrString
  | .number,   .int _   => true
  | .number,   .float _ => true
  | .bool,     .bool _  => true
  | .list _,   .list _  => true
  | .map _,    .map _   => true
  | .object _, .map _   => true
  | _,         _        => false

/-- What is said of a value that does not fit. -/
def complaint (p : Place) : Text := "expected " ++ p.shape.noun ++ ", got " ++ p.value.typeName

/-- An integer where a text is asked for has few enough digits to be written. -/
def isShort (p : Place) : Bool :=
  match p.shape, p.value with
  | .string, .int n => !Decimal.tooLong n
  | _,       _      => true

/-- Why conversion stops at a place, if it does. -/
def failure? (hints : Hints) (p : Place) : Option Failure :=
  if !p.fits hints then some (.misshapen p.path p.complaint)
  else if !p.isShort then some (.invalid Decimal.tooLongToWrite)
  else none

/-- A place is right inside of another: a declared attribute that is there, an item of a list or an
entry of a map. Only attributes make paths longer. -/
inductive Inside : Place → Place → Prop where
  | field {path name : Text} {as : List (Text × Shape)} {es : List (Text × Value)}
      {shape : Shape} {v : Value} (declared : (name, shape) ∈ as)
      (present : Value.lookup name es = some v) :
      Inside ⟨path, .object as, .map es⟩ ⟨join path name, shape, v⟩
  | item {path : Text} {item : Shape} {vs : List Value} {v : Value} (mem : v ∈ vs) :
      Inside ⟨path, .list item, .list vs⟩ ⟨path, item, v⟩
  | entry {path key : Text} {entry : Shape} {es : List (Text × Value)} {v : Value}
      (mem : (key, v) ∈ es) : Inside ⟨path, .map entry, .map es⟩ ⟨path, entry, v⟩

/-- A place can be reached from another one. -/
def Reaches : Place → Place → Prop := Relation.ReflTransGen Inside

end Place

/-! ### Places in order -/

mutual

/-- The places that can be reached, in the order in which conversion comes to them. -/
def places (path : Text) : Shape → Value → List Place
  | .list item, .list vs =>
    ⟨path, .list item, .list vs⟩ :: vs.flatMap (places path item)
  | .map entry, .map es  =>
    ⟨path, .map entry, .map es⟩ :: es.flatMap fun e => places path entry e.2
  | .object as, .map es  => ⟨path, .object as, .map es⟩ :: attributePlaces path as es
  | shape,      v        => [⟨path, shape, v⟩]

/-- The places in the declared attributes that are there, in the order of the attributes. -/
def attributePlaces (path : Text) :
    List (Text × Shape) → List (Text × Value) → List Place
  | [],                  _  => []
  | (name, shape) :: as, es =>
    ((Value.lookup name es).map (places (join path name) shape)).getD [] ++
      attributePlaces path as es

end

/-! ### Projection -/

mutual

/-- A value without what is not declared. Lists keep their length and maps their keys; an integer
where a text is asked for becomes its numeral, and everything else stays as it is. -/
def project : Shape → Value → Value
  | .string,    .int n   => .str (Decimal.ofInt n)
  | .list item, .list vs => .list (vs.map (project item))
  | .map entry, .map es  => .map (es.map fun e => (e.1, project entry e.2))
  | .object as, .map es  => .map (projectAttributes as es)
  | _,          v        => v

/-- The declared attributes that are there, in the order of the attributes. -/
def projectAttributes : List (Text × Shape) → List (Text × Value) → List (Text × Value)
  | [],                  _  => []
  | (name, shape) :: as, es =>
    ((Value.lookup name es).map fun v => (name, project shape v)).toList ++
      projectAttributes as es

end

/-! ### The first place that stops conversion -/

section Stops

variable {α β γ : Type} {hints : Hints}

/-- A result, unless conversion stops at one of some places. -/
def unlessStopped (hints : Hints) (ps : List Place) (a : α) : Except Failure α :=
  match ps.findSome? (Place.failure? hints) with
  | none   => .ok a
  | some e => .error e

lemma unlessStopped_map (f : α → β) (ps : List Place) (a : α) :
    (unlessStopped hints ps a).map f = unlessStopped hints ps (f a) := by
  unfold unlessStopped
  cases ps.findSome? (Place.failure? hints) <;> rfl

/-- Of two rows of places, the second one counts if the first one does not stop conversion. -/
lemma unlessStopped_append (ps qs : List Place) (a : α) (b : β) (f : α → β → γ) :
    unlessStopped hints (ps ++ qs) (f a b) = (do
      let a ← unlessStopped hints ps a
      let b ← unlessStopped hints qs b
      return f a b) := by
  unfold unlessStopped
  rw [List.findSome?_append]
  cases ps.findSome? (Place.failure? hints) with
  | some e => rfl
  | none => cases qs.findSome? (Place.failure? hints) <;> rfl

lemma unlessStopped_cons {p : Place} (h : p.failure? hints = none) (ps : List Place) (a : α) :
    unlessStopped hints (p :: ps) a = unlessStopped hints ps a := by
  rw [unlessStopped, List.findSome?_cons, h]
  rfl

/-- What is converted one by one stops at the first place of all. -/
lemma mapM_unlessStopped {f : α → Except Failure β} {ps : α → List Place} {g : α → β}
    (h : ∀ a, f a = unlessStopped hints (ps a) (g a)) (as : List α) :
    as.mapM f = unlessStopped hints (as.flatMap ps) (as.map g) := by
  induction as with
  | nil => rfl
  | cons a as ih =>
    rw [List.mapM_cons, h, ih, List.flatMap_cons, List.map_cons]
    exact (unlessStopped_append (ps a) (as.flatMap ps) (g a) (as.map g) List.cons).symm

/-- At a single place, what counts is what stops there. -/
lemma unlessStopped_singleton (p : Place) (a : α) :
    unlessStopped hints [p] a = match p.failure? hints with
      | none   => .ok a
      | some e => .error e := by
  rw [unlessStopped, List.findSome?_singleton]

end Stops

section Convert

variable (hints : Hints)

lemma convertString_eq (path : Text) (v : Value) (hnull : v ≠ .null) :
    convertString hints path v
      = unlessStopped hints [⟨path, .string, v⟩] (project .string v) := by
  rw [unlessStopped_singleton]
  cases v with
  | null => exact absurd rfl hnull
  | int n =>
    by_cases hhint : hints.lookup path = some intOrString
    · cases hlong : Decimal.tooLong n <;>
        simp [convertString, Place.failure?, Place.fits, Place.isShort, hhint, hlong, Decimal.write,
          project, Except.mapError, Except.map]
    · simp [convertString, Place.failure?, Place.fits, hhint, mismatch, Place.complaint, noun]
  | _ => rfl

mutual

/-- Conversion projects a value, unless it stops at one of the places that it comes to. -/
lemma convert_eq (path : Text) (shape : Shape) (v : Value) :
    convert hints path shape v = unlessStopped hints (places path shape v) (project shape v) := by
  match shape with
  | .any => cases v <;> rfl
  | .string =>
    cases v with
    | null => rfl
    | _ => exact convertString_eq hints path _ nofun
  | .number | .bool => cases v <;> rfl
  | .list item =>
    cases v with
    | list vs =>
      rw [convert, mapM_unlessStopped (convert_eq path item), unlessStopped_map, places, project,
        unlessStopped_cons rfl]
    | _ => rfl
  | .map entry =>
    cases v with
    | map es =>
      have hentry : ∀ e : Text × Value, (convert hints path entry e.2).map (e.1, ·)
          = unlessStopped hints (places path entry e.2) (e.1, project entry e.2) := by
        intro e
        rw [convert_eq path entry, unlessStopped_map]
      rw [convert, mapM_unlessStopped hentry, unlessStopped_map, places, project,
        unlessStopped_cons rfl]
    | _ => rfl
  | .object as =>
    cases v with
    | map es =>
      rw [convert, convertAttributes_eq path as, unlessStopped_map, places, project,
        unlessStopped_cons rfl]
    | _ => rfl

lemma convertAttributes_eq (path : Text) (as : List (Text × Shape)) (es : List (Text × Value)) :
    convertAttributes hints path as es
      = unlessStopped hints (attributePlaces path as es) (projectAttributes as es) := by
  match as with
  | [] => rfl
  | (name, shape) :: as =>
    have hrest := convertAttributes_eq path as es
    rw [convertAttributes, attributePlaces, projectAttributes]
    cases hfound : Value.lookup name es with
    | none => exact hrest
    | some v =>
      have hshape := convert_eq (join path name) shape v
      simp only [hrest, hshape, Option.map_some, Option.getD_some]
      exact (unlessStopped_append _ _ (project shape v) (projectAttributes as es)
        fun w fs => (name, w) :: fs).symm

end

end Convert

/-! ### Places that can be reached -/

/-- A place is reached where one starts, or from a place right inside of there. -/
lemma Place.reaches_iff {p q : Place} :
    p.Reaches q ↔ q = p ∨ ∃ r, Place.Inside p r ∧ r.Reaches q := by
  rw [Place.Reaches, Relation.ReflTransGen.cases_head_iff, eq_comm]

mutual

/-- Conversion comes to the places that can be reached. -/
lemma mem_places_iff {path : Text} {shape : Shape} {v : Value} {q : Place} :
    q ∈ places path shape v ↔ Place.Reaches ⟨path, shape, v⟩ q := by
  have hleaf : (∀ r, ¬ Place.Inside ⟨path, shape, v⟩ r) →
      (q ∈ [⟨path, shape, v⟩] ↔ Place.Reaches ⟨path, shape, v⟩ q) := by
    intro hnone
    rw [List.mem_singleton, Place.reaches_iff, or_iff_left]
    rintro ⟨r, hr, -⟩
    exact hnone r hr
  match shape with
  | .any | .string | .number | .bool =>
    cases v <;> exact hleaf nofun
  | .list item =>
    cases v with
    | list vs =>
      rw [places, List.mem_cons, List.mem_flatMap, Place.reaches_iff]
      refine or_congr_right ?_
      constructor
      · rintro ⟨v, hv, hq⟩
        exact ⟨_, .item hv, mem_places_iff.mp hq⟩
      · rintro ⟨_, hr, hq⟩
        cases hr with
        | item hv => exact ⟨_, hv, mem_places_iff.mpr hq⟩
    | _ => exact hleaf nofun
  | .map entry =>
    cases v with
    | map es =>
      rw [places, List.mem_cons, List.mem_flatMap, Place.reaches_iff]
      refine or_congr_right ?_
      constructor
      · rintro ⟨e, he, hq⟩
        exact ⟨_, .entry he, mem_places_iff.mp hq⟩
      · rintro ⟨_, hr, hq⟩
        cases hr with
        | entry he => exact ⟨_, he, mem_places_iff.mpr hq⟩
    | _ => exact hleaf nofun
  | .object as =>
    cases v with
    | map es =>
      rw [places, List.mem_cons, mem_attributePlaces_iff, Place.reaches_iff]
      refine or_congr_right ?_
      constructor
      · rintro ⟨name, shape, v, hdeclared, hpresent, hq⟩
        exact ⟨_, .field hdeclared hpresent, hq⟩
      · rintro ⟨_, ⟨hdeclared, hpresent⟩, hq⟩
        exact ⟨_, _, _, hdeclared, hpresent, hq⟩
    | _ => exact hleaf nofun

lemma mem_attributePlaces_iff {path : Text} {as : List (Text × Shape)}
    {es : List (Text × Value)} {q : Place} :
    q ∈ attributePlaces path as es ↔ ∃ name shape v, (name, shape) ∈ as ∧
      Value.lookup name es = some v ∧ Place.Reaches ⟨join path name, shape, v⟩ q := by
  match as with
  | [] => simp [attributePlaces]
  | (name, shape) :: as =>
    rw [attributePlaces, List.mem_append, mem_attributePlaces_iff]
    constructor
    · rintro (hq | ⟨name', shape', v, hdeclared, hpresent, hq⟩)
      · cases hpresent : Value.lookup name es with
        | none => simp [hpresent] at hq
        | some v =>
          rw [hpresent, Option.map_some, Option.getD_some] at hq
          exact ⟨name, shape, v, List.mem_cons_self, hpresent, mem_places_iff.mp hq⟩
      · exact ⟨name', shape', v, List.mem_cons_of_mem _ hdeclared, hpresent, hq⟩
    · rintro ⟨name', shape', v, hdeclared, hpresent, hq⟩
      obtain heq | hdeclared := List.mem_cons.mp hdeclared
      · cases heq
        rw [hpresent, Option.map_some, Option.getD_some]
        exact Or.inl (mem_places_iff.mpr hq)
      · exact Or.inr ⟨name', shape', v, hdeclared, hpresent, hq⟩

end

/-- What can be reached occurs in the value that one starts from. -/
lemma Place.Reaches.occurs {p q : Place} (h : p.Reaches q) : Value.Occurs q.value p.value := by
  induction h with
  | refl => exact .whole
  | tail _ hinside ih =>
    cases hinside with
    | field _ present => exact .trans (.entry (Value.mem_of_lookup present) .whole) ih
    | item mem => exact .trans (.item mem .whole) ih
    | entry mem => exact .trans (.entry mem .whole) ih

/-! ### What stops conversion -/

namespace Place

variable {hints : Hints} {p : Place}

lemma failure?_eq_none_iff :
    p.failure? hints = none ↔ p.fits hints = true ∧ p.isShort = true := by
  unfold failure?
  split_ifs <;> simp_all

lemma failure?_eq_some_misshapen_iff {name detail : Text} :
    p.failure? hints = some (.misshapen name detail) ↔
      ¬ p.fits hints ∧ name = p.path ∧ detail = p.complaint := by
  unfold failure?
  split_ifs with hfits hshort
  · rw [Option.some.injEq, Failure.misshapen.injEq, eq_comm, @eq_comm _ p.complaint]
    exact (and_iff_right (by simpa using hfits)).symm
  · simp_all
  · simp_all

/-- What stops conversion at a place is of the wrong type, or too long. -/
lemma misshapen_of_isShort {e : Failure} (hshort : p.isShort = true)
    (h : p.failure? hints = some e) : e = .misshapen p.path p.complaint := by
  unfold failure? at h
  split_ifs at h <;> simp_all

/-- Integers that can be written anyhow are short. -/
lemma isShort_of_writable (h : p.value.Writable) : p.isShort = true := by
  unfold isShort
  split
  · next n _ hvalue =>
    rw [hvalue, Value.writable_int_iff] at h
    simp [h]
  · rfl

end Place

section Ends

variable {hints : Hints} {path : Text} {shape : Shape} {raw : Value}

lemma convert_eq_ok_iff {typed : Value} :
    convert hints path shape raw = .ok typed ↔
      (∀ p ∈ places path shape raw, p.fits hints ∧ p.isShort) ∧ typed = shape.project raw := by
  simp only [← Place.failure?_eq_none_iff]
  rw [convert_eq, unlessStopped]
  cases hfirst : (places path shape raw).findSome? (Place.failure? hints) with
  | none =>
    rw [Except.ok.injEq, eq_comm, and_iff_right (List.findSome?_eq_none_iff.mp hfirst)]
  | some e =>
    refine iff_of_false nofun fun ⟨hnone, _⟩ => ?_
    rw [List.findSome?_eq_none_iff.mpr hnone] at hfirst
    cases hfirst

/-- Conversion fails at the first place that stops it. -/
lemma convert_eq_error_iff {e : Failure} :
    convert hints path shape raw = .error e ↔
      ∃ before p behind, places path shape raw = before ++ p :: behind ∧
        (∀ q ∈ before, q.fits hints ∧ q.isShort) ∧ p.failure? hints = some e := by
  simp only [← Place.failure?_eq_none_iff]
  have hfirst : convert hints path shape raw = .error e ↔
      (places path shape raw).findSome? (Place.failure? hints) = some e := by
    rw [convert_eq, unlessStopped]
    cases (places path shape raw).findSome? (Place.failure? hints) <;> simp
  rw [hfirst, List.findSome?_eq_some_iff]
  constructor
  · rintro ⟨before, p, behind, hsplit, he, hbefore⟩
    exact ⟨before, p, behind, hsplit, hbefore, he⟩
  · rintro ⟨before, p, behind, hsplit, hbefore, he⟩
    exact ⟨before, p, behind, hsplit, he, hbefore⟩

/-- Where every integer can be written, only what does not fit stops conversion. -/
lemma exists_misshapen_iff (hraw : raw.Writable) :
    (∃ name detail, convert hints path shape raw = .error (.misshapen name detail)) ↔
      ∃ p, Place.Reaches ⟨path, shape, raw⟩ p ∧ ¬ p.fits hints := by
  constructor
  · rintro ⟨name, detail, hconvert⟩
    obtain ⟨before, p, behind, hsplit, -, hp⟩ := convert_eq_error_iff.mp hconvert
    refine ⟨p, mem_places_iff.mp (by simp [hsplit]), ?_⟩
    exact (Place.failure?_eq_some_misshapen_iff.mp hp).1
  · rintro ⟨p, hreached, hp⟩
    cases hconvert : convert hints path shape raw with
    | ok typed =>
      have hfits := (convert_eq_ok_iff.mp hconvert).1 p (mem_places_iff.mpr hreached)
      exact absurd hfits.1 hp
    | error e =>
      obtain ⟨before, q, behind, hsplit, -, hq⟩ := convert_eq_error_iff.mp hconvert
      have hq' : q ∈ places path shape raw := by simp [hsplit]
      have hshort : q.isShort = true :=
        Place.isShort_of_writable (hraw.of_occurs (mem_places_iff.mp hq').occurs)
      exact ⟨q.path, q.complaint, by rw [Place.misshapen_of_isShort hshort hq]⟩

end Ends

/-- A value is converted exactly if it fits its shape at every place that can be reached from the
root, and if integers there that become texts can be written; it is converted to its projection.
It is reported as misshapen exactly if the first place that stops conversion holds a value that does
not fit, and the report names the attribute path of that place. So a value whose integers can all be
written is reported as misshapen exactly if it does not fit somewhere. -/
theorem converts_iff_fits_everywhere (hints : Hints) (path : Text) (shape : Shape) (raw : Value) :
    (∀ typed, convert hints path shape raw = .ok typed ↔
      (∀ p, Place.Reaches ⟨path, shape, raw⟩ p → p.fits hints ∧ p.isShort) ∧
        typed = shape.project raw) ∧
    (∀ name detail, convert hints path shape raw = .error (.misshapen name detail) ↔
      ∃ before p behind, places path shape raw = before ++ p :: behind ∧
        (∀ q ∈ before, q.fits hints ∧ q.isShort) ∧ ¬ p.fits hints ∧
        name = p.path ∧ detail = p.complaint) ∧
    (∀ p, p ∈ places path shape raw ↔ Place.Reaches ⟨path, shape, raw⟩ p) ∧
    (raw.Writable →
      ((∃ name detail, convert hints path shape raw = .error (.misshapen name detail)) ↔
        ∃ p, Place.Reaches ⟨path, shape, raw⟩ p ∧ ¬ p.fits hints)) := by
  refine ⟨fun typed => ?_, fun name detail => ?_, fun p => mem_places_iff, exists_misshapen_iff⟩
  · simp only [convert_eq_ok_iff, mem_places_iff]
  · simp only [convert_eq_error_iff, Place.failure?_eq_some_misshapen_iff]

/-! ### Ports -/

/-- Of three ports the first one fits, since it becomes a text, and the others do not. -/
def oddPorts : Value :=
  .map [("ports", .list [.map [("port", .int 80)], .map [("name", .str "web"), ("port", .bool true)],
    .map [("port", .list [])]])]

theorem oddPorts_misshapen :
    oddPorts.Writable ∧
      convert portHints [] portShape oddPorts
        = .error (.misshapen "ports.port" "expected string, got bool") ∧
      ∃ p, Place.Reaches ⟨[], portShape, oddPorts⟩ p ∧ ¬ p.fits portHints := by
  have hwritable : oddPorts.Writable := by
    have hport : Decimal.tooLong 80 = false := by decide +kernel
    simp [oddPorts, hport]
  have hsplit : places [] portShape oddPorts = (places [] portShape oddPorts).take 5 ++
      ⟨"ports.port", .string, .bool true⟩ :: (places [] portShape oddPorts).drop 6 := by rfl
  have hbefore : ∀ q ∈ (places [] portShape oddPorts).take 5,
      q.fits portHints ∧ q.isShort := by decide +kernel
  obtain ⟨-, hmisshapen, -, hiff⟩ := converts_iff_fits_everywhere portHints [] portShape oddPorts
  have hconvert : convert portHints [] portShape oddPorts
      = .error (.misshapen "ports.port" "expected string, got bool") :=
    (hmisshapen _ _).mpr ⟨_, _, _, hsplit, hbefore, by decide, rfl, by rfl⟩
  exact ⟨hwritable, hconvert, (hiff hwritable).mp ⟨_, _, hconvert⟩⟩

end Shape

end Settle

import Settle.Proofs.Document.Closed
import Settle.Proofs.Except
import Settle.Proofs.Yaml.Nodes
import Settle.Yaml.Read

/-!
# Faults of documents

A text is a document, or has a fault of its own, or holds a scalar on which the rules of its kind
fail. The rules take for granted that the scalar is spelled like its kind, which a tag can deny, and
so they fail in other ways than a text does: a word is sought that is not there, the first character
of nothing is asked for, what is no moment is taken apart, or the text of a mapping that is its own
default value is looked for without end.

A document that is read is closed: each collection that stands again in it is one that it stands in.
-/

namespace Settle.Yaml

/-! ### Scalars -/

/-- The faults of a document: those of its text, and those of reading a scalar by the rules of its
kind. -/
def OfDocument : Failure → Prop
  | .malformed _ | .invalid _ | .wrongType | .overflow => True
  | .external k _ =>
    k = "KeyError" ∨ k = "IndexError" ∨ k = "AttributeError" ∨ k = "RecursionError"
  | _ => False

lemma OfSyntax.ofDocument {f : Failure} (h : OfSyntax f) : OfDocument f := by
  cases f with
  | malformed | invalid | overflow => trivial
  | _ => exact h.elim

namespace Scalar

@[simp] lemma boolean_raises (t : Text) : Raises OfDocument (boolean t) := by
  simp [boolean, OfDocument]

@[simp] lemma signed_raises (t : Text) : Raises OfDocument (signed t) := by
  simp [signed, missing, OfDocument]

@[simp] lemma integerIn_raises (base : Nat) (t : Text) :
    Raises OfDocument (integerIn base t) := Raises.mapError fun _ => trivial

@[simp] lemma magnitude_raises (t : Text) : Raises OfDocument (magnitude t) := by
  unfold magnitude
  split
  · simp [missing, OfDocument]
  · split
    · simp
    · simp
    · simp [Raises.mapM]

@[simp] lemma integer_raises (t : Text) : Raises OfDocument (integer t) := by
  simp [integer]

@[simp] lemma decimal_raises (t : Text) : Raises OfDocument (decimal t) := by
  unfold decimal
  split <;> simp [OfDocument]

@[simp] lemma sexagesimal_raises (sum : Binary64) (power : Int) (ds : List Binary64) :
    Raises OfDocument (sexagesimal sum power ds) := by
  induction ds generalizing sum power with
  | nil => exact Raises.ok _
  | cons d ds ih =>
    unfold sexagesimal
    split
    · exact ih _ _
    · exact Raises.error_iff.mpr trivial

@[simp] lemma number_raises (t : Text) : Raises OfDocument (number t) := by
  simp [number, Raises.mapM]

@[simp] lemma moment_raises (t : Text) : Raises OfDocument (Moment.read t) := by
  unfold Moment.read
  split
  · simp [OfDocument]
  · split <;> simp [OfDocument]

/-- A scalar of a kind that has values is read, or the fault is one of a document. -/
lemma value?_raises {k : Kind} {read : Text → Except Failure Document} (h : value? k = some read)
    (t : Text) : Raises OfDocument (read t) := by
  cases k with
  | bytes =>
    cases h
    exact Raises.mapError fun _ => trivial
  | null | text =>
    cases h
    exact Raises.ok _
  | bool | int | float | moment =>
    cases h
    simp
  | _ => cases h

/-- The value of a scalar holds nothing else. -/
lemma isKey_of_value? {k : Kind} {read : Text → Except Failure Document} (h : value? k = some read)
    {t : Text} {d : Document} (hd : read t = .ok d) : d.isKey = true := by
  cases k with
  | null | text =>
    cases h
    cases hd
    rfl
  | bytes =>
    cases h
    obtain ⟨b, -, rfl⟩ := map_eq_ok_iff.mp (mapError_eq_ok_iff.mp hd)
    rfl
  | bool | int | float | moment =>
    cases h
    obtain ⟨a, -, rfl⟩ := map_eq_ok_iff.mp hd
    rfl
  | _ => cases h

end Scalar

/-! ### Making documents -/

/-- What is known of scalars in a part are keys. -/
def Part.HasKeys : Part → Prop
  | .scalar d => d.isKey = true
  | .set ks   => ∀ k ∈ ks, k.isKey = true
  | .map es   => ∀ e ∈ es, e.1.isKey = true
  | _         => True

/-- What is known of scalars so far are keys. -/
def Maker.HasKeys (s : Maker) : Prop := ∀ i p, s.parts.getD i none = some p → p.HasKeys

namespace Making

/-- Making fails for a fault of a document, if it fails, and ends in what `P` says otherwise. What
is known of scalars stay keys. -/
def Makes {α : Type} (m : Making α) (P : α → Prop) : Prop :=
  ∀ s : Maker, s.HasKeys → Raises OfDocument (m s) ∧
    ∀ a s', m s = .ok (a, s') → P a ∧ s'.HasKeys

/-- Making fails for a fault of a document, if it fails. -/
abbrev Sound {α : Type} (m : Making α) : Prop := Makes m fun _ => True

section

variable {α β : Type} {m : Making α} {P : α → Prop} {Q : β → Prop}

lemma makes_pure {a : α} (h : P a) : Makes (pure a) P := by
  refine fun s hs => ⟨Raises.ok _, fun b s' hb => ?_⟩
  cases hb
  exact ⟨h, hs⟩

lemma sound_pure (a : α) : Sound (pure a) := makes_pure trivial

lemma Makes.bind {f : α → Making β} (hm : Makes m P) (hf : ∀ a, P a → Makes (f a) Q) :
    Makes (m >>= f) Q := by
  intro s hs
  have hbind : (m >>= f) s = m s >>= fun p => f p.1 p.2 := rfl
  rw [hbind, Raises.bind_iff]
  refine ⟨⟨(hm s hs).1, fun p hp => ?_⟩, fun b s' hb => ?_⟩
  · obtain ⟨ha, hp⟩ := (hm s hs).2 p.1 p.2 hp
    exact (hf p.1 ha p.2 hp).1
  · obtain ⟨p, hp, hb⟩ := bind_eq_ok_iff.mp hb
    obtain ⟨ha, hp⟩ := (hm s hs).2 p.1 p.2 hp
    exact (hf p.1 ha p.2 hp).2 b s' hb

lemma Sound.bind {f : α → Making β} (hm : Sound m) (hf : ∀ a, Makes (f a) Q) :
    Makes (m >>= f) Q :=
  Makes.bind hm fun a _ => hf a

lemma makes_error {f : Failure} (h : OfDocument f) : Makes (fun _ => .error f : Making α) P := by
  refine fun s _ => ⟨Raises.error_iff.mpr h, fun a s' ha => ?_⟩
  cases ha

lemma makes_fail (context : Text) : Makes (fail context : Making α) P := makes_error trivial

lemma makes_lift {x : Except Failure α} (h : Raises OfDocument x) (hP : ∀ a, x = .ok a → P a) :
    Makes (liftM x : Making α) P := by
  intro s hs
  have hlift : (liftM x : Making α) s = x >>= fun a => pure (a, s) := rfl
  rw [hlift, Raises.bind_iff]
  refine ⟨⟨h, fun _ _ => Raises.pure _⟩, fun a s' ha => ?_⟩
  obtain ⟨b, hb, ha⟩ := bind_eq_ok_iff.mp ha
  cases ha
  exact ⟨hP _ hb, hs⟩

lemma makes_ite {c : Prop} [Decidable c] {m' : Making α} (hm : Makes m P) (hm' : Makes m' P) :
    Makes (if c then m else m') P := by
  split
  · exact hm
  · exact hm'

lemma sound_mapM {f : α → Making β} (h : ∀ a, Sound (f a)) (as : List α) : Sound (as.mapM f) := by
  induction as with
  | nil => exact sound_pure []
  | cons a as ih =>
    rw [List.mapM_cons]
    exact (h a).bind fun _ => ih.bind fun _ => sound_pure _

lemma sound_forM {f : α → Making PUnit} (h : ∀ a, Sound (f a)) (as : List α) :
    Sound (as.forM f) := by
  induction as with
  | nil => exact sound_pure _
  | cons a as ih => exact (h a).bind fun _ => ih

lemma makes_foldlM {f : β → α → Making β} (h : ∀ b a, Q b → Makes (f b a) Q) (as : List α) {b : β}
    (hb : Q b) : Makes (as.foldlM f b) Q := by
  induction as generalizing b with
  | nil => exact makes_pure hb
  | cons a as ih => exact (h b a hb).bind fun _ => ih

end

/-! ### Nodes and parts -/

lemma sound_get : Sound (get : Making Maker) := by
  refine fun s hs => ⟨Raises.ok _, fun a s' ha => ?_⟩
  cases ha
  exact ⟨trivial, hs⟩

/-- A change that leaves the parts alone. -/
lemma sound_modify {g : Maker → Maker} (h : ∀ s, (g s).parts = s.parts) :
    Sound (modify g : Making PUnit) := by
  refine fun s hs => ⟨Raises.ok _, fun a s' ha => ⟨trivial, ?_⟩⟩
  cases ha
  unfold Maker.HasKeys
  rw [h s]
  exact hs

lemma sound_node (i : Ref) : Sound (node i) := sound_get.bind fun _ => sound_pure _

lemma sound_setNode (i : Ref) (n : Node) : Sound (setNode i n) := sound_modify fun _ => rfl

lemma makes_part? (i : Ref) : Makes (part? i) fun p? => ∀ p, p? = some p → p.HasKeys := by
  refine fun s hs => ⟨Raises.ok _, fun p? s' hp => ?_⟩
  cases hp
  exact ⟨hs i, hs⟩

lemma sound_setPart (i : Ref) {p : Part} (hp : p.HasKeys) : Sound (setPart i p) := by
  refine fun s hs => ⟨Raises.ok _, fun a s' ha => ⟨trivial, ?_⟩⟩
  cases ha
  intro j q hq
  rw [Array.getD_eq_getD_getElem?, Array.getElem?_setIfInBounds] at hq
  split at hq
  · split at hq
    · cases hq
      exact hp
    · cases hq
  · exact hs j q (Array.getD_eq_getD_getElem?.trans hq)

/-! ### Scalars and keys -/

lemma sound_entryOf? (k : Kind) (es : List (Ref × Ref)) : Sound (entryOf? k es) := by
  induction es with
  | nil => exact sound_pure _
  | cons e es ih => exact (sound_node _).bind fun _ => makes_ite (sound_pure _) ih

lemma sound_text (fuel : Nat) (n : Node) : Sound (text fuel n) := by
  induction fuel generalizing n with
  | zero =>
    cases n with
    | scalar _ t => exact sound_pure t
    | sequence => exact makes_fail _
    | mapping => exact makes_error (by simp [OfDocument])
  | succ fuel ih =>
    cases n with
    | scalar _ t => exact sound_pure t
    | sequence => exact makes_fail _
    | mapping _ es =>
      refine (sound_entryOf? _ es).bind fun e? => ?_
      cases e? with
      | none => exact makes_fail _
      | some e => exact (sound_node _).bind ih

lemma makes_scalar (n : Node) : Makes (scalar n) fun d => d.isKey = true := by
  have hread : ∀ {read} (_ : Scalar.value? n.kind = some read) t,
      Makes (liftM (read t) : Making Document) fun d => d.isKey = true := fun h t =>
    makes_lift (Scalar.value?_raises h t) fun _ => Scalar.isKey_of_value? h
  unfold scalar
  split
  · exact makes_fail _
  · next h => exact hread h _
  · next h =>
    refine sound_get.bind fun s => (sound_text _ _).bind fun t => ?_
    extract_lets next
    have hnext : ∀ u, Makes (next u) fun d => d.isKey = true := fun _ => hread h t
    exact makes_ite (Sound.bind (makes_error trivial) hnext) (hnext ())

lemma sound_make (i : Ref) : Sound (make i) := by
  refine (makes_part? i).bind fun p? _ => makes_ite (sound_pure _) ?_
  refine (sound_node i).bind fun n => ?_
  cases hp : Part.empty? n.kind with
  | none => exact (makes_scalar n).bind fun _ hd => sound_setPart i hd
  | some p =>
    have hkeys : p.HasKeys := by
      cases hk : n.kind <;> rw [hk] at hp <;> cases hp <;> simp [Part.HasKeys]
    exact (sound_setPart i hkeys).bind fun _ => sound_modify fun _ => rfl

lemma makes_key (i : Ref) : Makes (key i) fun d => d.isKey = true := by
  refine (sound_make i).bind fun _ => (makes_part? i).bind fun p? hp => ?_
  split
  · exact makes_pure (hp _ rfl)
  · exact makes_fail _

/-! ### Collections -/

lemma sound_takeMerge? (es : List (Ref × Ref)) : Sound (takeMerge? es) := by
  induction es with
  | nil => exact sound_pure _
  | cons e es ih =>
    exact (sound_node _).bind fun _ => makes_ite (sound_pure _) (ih.bind fun _ => sound_pure _)

section

variable {flatten : Ref → Making Unit} (h : ∀ i, Sound (flatten i))

include h

lemma sound_mappingEntries (i : Ref) : Sound (mappingEntries flatten i) := by
  refine (sound_node i).bind fun n => ?_
  extract_lets next
  have hnext : ∀ u, Sound (next u) := fun _ =>
    (h i).bind fun _ => (sound_node i).bind fun _ => sound_pure _
  exact makes_ite (Sound.bind (makes_fail _) hnext) (hnext ())

lemma sound_mergedEntries (i : Ref) : Sound (mergedEntries flatten i) := by
  refine (sound_node i).bind fun n => ?_
  split
  · exact (sound_mapM (sound_mappingEntries h) _).bind fun _ => sound_pure _
  · exact sound_mappingEntries h i

end

lemma sound_flatten (fuel : Nat) (i : Ref) : Sound (flatten fuel i) := by
  induction fuel generalizing i with
  | zero => exact makes_fail _
  | succ fuel ih =>
    refine (sound_node i).bind fun n => (sound_takeMerge? n.entries).bind fun found? => ?_
    cases found? with
    | none =>
      refine sound_forM (fun e => (sound_node e.1).bind fun k => ?_) n.entries
      exact makes_ite (sound_setNode _ _) (sound_pure _)
    | some found =>
      refine (sound_setNode i _).bind fun _ => (sound_mergedEntries ih _).bind fun merged => ?_
      exact (ih i).bind fun _ => (sound_node i).bind fun n => sound_setNode i _

lemma isKey_of_mem_insert {k : Document} {v : Ref} {es : List (Document × Ref)}
    (hk : k.isKey = true) (hes : ∀ e ∈ es, e.1.isKey = true) :
    ∀ e ∈ Document.insert k v es, e.1.isKey = true := by
  induction es with
  | nil => simpa [Document.insert] using hk
  | cons e es ih =>
    obtain ⟨he, hes⟩ := List.forall_mem_cons.mp hes
    unfold Document.insert
    split
    · exact List.forall_mem_cons.mpr ⟨he, hes⟩
    · exact List.forall_mem_cons.mpr ⟨he, ih hes⟩

lemma makes_entries (merges : Nat) (i : Ref) :
    Makes (entries merges i) fun es => ∀ e ∈ es, e.1.isKey = true := by
  refine (sound_flatten merges i).bind fun _ => (sound_node i).bind fun n => ?_
  refine makes_foldlM (fun es e hes => ?_) n.entries (List.forall_mem_nil _)
  exact (makes_key e.1).bind fun k hk => (sound_make e.2).bind fun _ =>
    makes_pure (isKey_of_mem_insert hk hes)

lemma sound_pair (context : Text) (i : Ref) : Sound (pair context i) := by
  refine (sound_node i).bind fun n => ?_
  split
  · exact (sound_make _).bind fun _ => (sound_make _).bind fun _ => sound_pure _
  · exact makes_fail context

lemma sound_fill (merges : Nat) (i : Ref) : Sound (fill merges i) := by
  refine (sound_node i).bind fun n => ?_
  split
  · exact (sound_forM sound_make _).bind fun _ => sound_setPart i trivial
  · exact (sound_mapM (sound_pair _) _).bind fun _ => sound_setPart i trivial
  · exact (sound_mapM (sound_pair _) _).bind fun _ => sound_setPart i trivial
  · exact (makes_entries merges i).bind fun _ hes => sound_setPart i hes
  · refine (makes_entries merges i).bind fun _ hes => sound_setPart i ?_
    exact List.forall_mem_map.mpr hes
  · exact makes_fail _

lemma sound_fillWaiting (merges fuel : Nat) : Sound (fillWaiting merges fuel) := by
  induction fuel with
  | zero => exact sound_pure _
  | succ fuel ih =>
    refine sound_get.bind fun s => ?_
    split
    · exact sound_pure _
    · refine Sound.bind (sound_modify fun _ => rfl) fun _ => ?_
      exact (sound_fill merges _).bind fun _ => ih

end Making

/-- Where a node stands again, it is one of those around. -/
lemma closedIn_tie {parts : Array (Option Part)}
    (hparts : ∀ i p, parts.getD i none = some p → p.HasKeys) (fuel : Nat)
    (around : List (Option Ref)) (i : Ref) :
    (tie parts fuel around i).ClosedIn around.length := by
  induction fuel generalizing around i with
  | zero => trivial
  | succ fuel ih =>
    rw [tie]
    split
    · next n hn => exact (List.idxOf?_eq_some_iff.mp hn).1
    · split
      · trivial
      · next d hd => exact Document.closedIn_of_isKey _ (hparts i _ hd)
      · refine Document.allClosedIn_iff.mpr (List.forall_mem_map.mpr fun j _ => ?_)
        exact ih (some i :: around) j
      · refine Document.allClosedIn_iff.mpr (List.forall_mem_map.mpr fun e _ => ?_)
        exact ⟨ih (none :: some i :: around) e.1, ih (none :: some i :: around) e.2, trivial⟩
      · next ks hks =>
        exact Document.allClosedIn_iff.mpr fun k hk =>
          Document.closedIn_of_isKey _ (hparts i _ hks k hk)
      · next es hes =>
        refine Document.entriesClosedIn_iff.mpr (List.forall_mem_map.mpr fun e he => ?_)
        exact ⟨hparts i _ hes e he, ih (some i :: around) e.2⟩

namespace Graph

variable (g : Graph)

/-- A document is made of nodes, or the fault is one of a document; nothing stands again in it but
what it stands in. -/
lemma toDocument_ends :
    Raises OfDocument g.toDocument ∧ ∀ d, g.toDocument = .ok d → d.Closed := by
  have hmaking := (Making.sound_make g.root).bind fun _ => Making.sound_fillWaiting
    (g.nodes.foldl (fun n x => n + x.entries.length) 1) g.nodes.size
  obtain ⟨hraises, hparts⟩ := hmaking ⟨g.nodes, Array.replicate g.nodes.size none, []⟩ (by
    intro i p hp
    rw [Array.getD_eq_getD_getElem?, Array.getElem?_replicate] at hp
    split at hp <;> cases hp)
  refine ⟨Raises.bind_iff.mpr ⟨hraises, fun _ _ => Raises.pure _⟩, fun d hd => ?_⟩
  obtain ⟨⟨_, s⟩, hs, hd⟩ := bind_eq_ok_iff.mp hd
  cases hd
  exact closedIn_tie (hparts _ _ hs).2 _ [] g.root

end Graph

end Yaml

/-- A text is a document, or the fault is one of a document. -/
theorem Document.ofYaml_raises (t : Text) : Raises Yaml.OfDocument (Document.ofYaml t) := by
  unfold Document.ofYaml
  extract_lets t' finish
  have hwider : ∀ {α : Type} {x : Except Failure α}, Raises Yaml.OfSyntax x →
      Raises Yaml.OfDocument x := fun h => h.mono fun _ => Yaml.OfSyntax.ofDocument
  have hfinish : Raises Yaml.OfDocument (finish ()) := by
    refine Raises.bind_iff.mpr ⟨hwider (Yaml.Graph.ofText_raises t'), fun g? _ => ?_⟩
    cases g? with
    | none => exact Raises.pure _
    | some g => exact g.toDocument_ends.1
  split
  · exact Raises.bind_iff.mpr ⟨hwider (Yaml.fault_raises _), fun _ _ => hfinish⟩
  · exact hfinish

/-- A document that is read is closed. -/
theorem Document.closed_ofYaml {t : Text} {d : Document} (h : ofYaml t = .ok d) : d.Closed := by
  unfold ofYaml at h
  extract_lets t' finish at h
  have hfinish : ∀ {d}, finish () = .ok d → d.Closed := by
    intro d h
    obtain ⟨g?, -, h⟩ := bind_eq_ok_iff.mp h
    cases g? with
    | none =>
      cases h
      trivial
    | some g => exact g.toDocument_ends.2 d h
  split at h
  · obtain ⟨_, h, -⟩ := bind_eq_ok_iff.mp h
    cases h
  · exact hfinish h

end Settle

import Settle.Proofs.Yaml.Scanning
import Settle.Yaml.Node

/-!
# Faults of the nodes of a document

Nodes are read from tokens, of which the last may be followed by a fault. What goes wrong with
reading is a fault of the text: tokens in a wrong place, an alias of nothing, a tag or a directive
that says nothing, or what is wrong behind the tokens.
-/

namespace Settle.Yaml

namespace Node.Reading

/-- What is wrong behind the tokens is a fault of the text. -/
def Announces (r : Reader) : Prop := ∀ f, r.failure? = some f → OfSyntax f

/-- Reading fails for a fault of the text, if it fails, and leaves what is wrong behind the tokens
as it is. -/
def Sound {α : Type} (m : Reading α) : Prop :=
  ∀ r, Announces r → (∀ f, m r = .error f → OfSyntax f) ∧
    ∀ a r', m r = .ok (a, r') → Announces r'

section

variable {α β : Type} {m : Reading α}

lemma sound_pure (a : α) : Sound (pure a) := by
  intro r hr
  refine ⟨fun f hf => ?_, fun b r' hb => ?_⟩
  · cases hf
  · cases hb
    exact hr

lemma Sound.bind {f : α → Reading β} (hm : Sound m) (hf : ∀ a, Sound (f a)) :
    Sound (m >>= f) := by
  intro r hr
  have hbind : (m >>= f) r = m r >>= fun p => f p.1 p.2 := rfl
  rw [hbind]
  cases hmr : m r with
  | error e =>
    refine ⟨fun g hg => ?_, fun b r' hb => ?_⟩
    · cases hg
      exact (hm r hr).1 _ hmr
    · cases hb
  | ok p => exact hf p.1 p.2 ((hm r hr).2 p.1 p.2 hmr)

lemma sound_fail (context : Text) : Sound (fail context : Reading α) := by
  intro r hr
  refine ⟨fun f hf => ?_, fun b r' hb => ?_⟩
  · cases hf
    trivial
  · cases hb

lemma sound_modify {g : Reader → Reader} (h : ∀ r, (g r).failure? = r.failure?) :
    Sound (modify g : Reading PUnit) := by
  intro r hr
  refine ⟨fun f hf => ?_, fun b r' hb => ?_⟩
  · cases hf
  · cases hb
    unfold Announces
    rw [h r]
    exact hr

lemma sound_get : Sound (get : Reading Reader) := by
  intro r hr
  refine ⟨fun f hf => ?_, fun b r' hb => ?_⟩
  · cases hf
  · cases hb
    exact hr

lemma sound_ite {c : Prop} [Decidable c] {m' : Reading α} (hm : Sound m) (hm' : Sound m') :
    Sound (if c then m else m') := by
  split
  · exact hm
  · exact hm'

/-- A reading that goes on unless something is wrong. -/
lemma sound_unless {c : Prop} [Decidable c] {context : Text} {next : Unit → Reading α}
    (h : ∀ u, Sound (next u)) : Sound (if c then fail context >>= next else next ()) :=
  sound_ite ((sound_fail context).bind h) (h ())

end

/-! ### Tokens, anchors and tags -/

lemma sound_peek : Sound peek := by
  intro r hr
  unfold peek
  refine ⟨fun f hf => ?_, fun b r' hb => ?_⟩
  · split at hf
    · cases hf
    · cases hf
      cases hfail : r.failure? with
      | none => trivial
      | some f => exact hr f hfail
  · split at hb
    · cases hb
      exact hr
    · cases hb

lemma sound_skip : Sound skip := sound_modify fun _ => rfl

lemma sound_sees (ts : List Token) : Sound (sees ts) :=
  sound_peek.bind fun _ => sound_pure _

lemma sound_skipIf (t : Token) : Sound (skipIf t) :=
  (sound_sees [t]).bind fun _ => sound_ite (sound_skip.bind fun _ => sound_pure _) (sound_pure _)

lemma sound_properties : Sound properties := by
  unfold properties
  refine sound_peek.bind fun t => ?_
  split
  · refine sound_skip.bind fun _ => sound_peek.bind fun t' => ?_
    split
    · exact sound_skip.bind fun _ => sound_pure _
    · exact sound_pure _
  · refine sound_skip.bind fun _ => sound_peek.bind fun t' => ?_
    split
    · exact sound_skip.bind fun _ => sound_pure _
    · exact sound_pure _
  · exact sound_pure _

lemma sound_expand (t : Tag) : Sound (expand t) := by
  unfold expand
  split
  · exact sound_pure _
  · refine sound_get.bind fun r => ?_
    split
    · exact sound_pure _
    · exact sound_fail _

lemma sound_find (anchor : Text) : Sound (find anchor) := by
  refine sound_get.bind fun r => ?_
  split
  · exact sound_pure _
  · exact sound_fail _

lemma sound_add (n : Node) : Sound (add n) := by
  intro r hr
  refine ⟨fun f hf => ?_, fun i r' hi => ?_⟩
  · cases hf
  · cases hi
    exact hr

lemma sound_put (i : Ref) (n : Node) : Sound (put i n) := sound_modify fun _ => rfl

lemma sound_declare (anchor? : Option Text) (n : Node) : Sound (declare anchor? n) := by
  unfold declare
  split
  · exact sound_add n
  · refine sound_get.bind fun r => ?_
    extract_lets next
    have hnext : ∀ u, Sound (next u) := by
      refine fun _ => (sound_add n).bind fun i => Sound.bind ?_ fun _ => sound_pure i
      exact sound_modify fun _ => rfl
    exact sound_unless hnext

/-! ### Collections -/

lemma sound_nodeUnless (ends : List Token) {node : Reading Ref} (h : Sound node) :
    Sound (nodeUnless ends node) :=
  (sound_sees ends).bind fun _ => sound_ite (sound_add _) h

lemma sound_valueUnless (ends : List Token) {node : Reading Ref} (h : Sound node) :
    Sound (valueUnless ends node) :=
  (sound_skipIf .value).bind fun _ => sound_ite (sound_nodeUnless ends h) (sound_add _)

section

variable {node : NodeReader} (h : ∀ block loose, Sound (node block loose))

include h

lemma sound_blockItems (fuel : Nat) : Sound (blockItems node fuel) := by
  induction fuel with
  | zero => exact sound_fail _
  | succ fuel ih =>
    refine (sound_skipIf _).bind fun _ => sound_ite ?_ ((sound_skipIf _).bind fun _ => ?_)
    · exact (sound_nodeUnless _ (h _ _)).bind fun _ => ih.bind fun _ => sound_pure _
    · exact sound_ite (sound_pure _) (sound_fail _)

lemma sound_looseItems (fuel : Nat) : Sound (looseItems node fuel) := by
  induction fuel with
  | zero => exact sound_fail _
  | succ fuel ih =>
    refine (sound_skipIf _).bind fun _ => sound_ite ?_ (sound_pure _)
    exact (sound_nodeUnless _ (h _ _)).bind fun _ => ih.bind fun _ => sound_pure _

lemma sound_blockEntries (fuel : Nat) : Sound (blockEntries node fuel) := by
  induction fuel with
  | zero => exact sound_fail _
  | succ fuel ih =>
    refine (sound_skipIf _).bind fun _ => sound_ite ?_ ((sound_skipIf _).bind fun _ => ?_)
    · refine (sound_nodeUnless _ (h _ _)).bind fun _ => ?_
      exact (sound_valueUnless _ (h _ _)).bind fun _ => ih.bind fun _ => sound_pure _
    · exact sound_ite (sound_pure _) (sound_fail _)

lemma sound_flowPair (close : Token) : Sound (flowPair node close) :=
  (sound_nodeUnless _ (h _ _)).bind fun _ => (sound_valueUnless _ (h _ _)).bind fun _ =>
    sound_pure _

lemma sound_flowItems (first : Bool) (fuel : Nat) : Sound (flowItems node first fuel) := by
  induction fuel generalizing first with
  | zero => exact sound_fail _
  | succ fuel ih =>
    unfold flowItems
    refine (sound_skipIf _).bind fun _ => sound_ite (sound_pure _) ?_
    extract_lets add next
    have hadd : ∀ n, Sound (add n) := fun _ => (ih false).bind fun _ => sound_pure _
    have hnext : ∀ u, Sound (next u) := by
      refine fun _ => (sound_skipIf _).bind fun _ => sound_ite (sound_pure _) ?_
      refine (sound_skipIf _).bind fun _ => sound_ite ?_ ((h _ _).bind hadd)
      exact (sound_flowPair h _).bind fun _ => (sound_add _).bind hadd
    exact sound_ite ((sound_skipIf _).bind fun _ => sound_unless hnext) (hnext ())

lemma sound_flowEntries (first : Bool) (fuel : Nat) : Sound (flowEntries node first fuel) := by
  induction fuel generalizing first with
  | zero => exact sound_fail _
  | succ fuel ih =>
    unfold flowEntries
    refine (sound_skipIf _).bind fun _ => sound_ite (sound_pure _) ?_
    extract_lets add next
    have hadd : ∀ e, Sound (add e) := fun _ => (ih false).bind fun _ => sound_pure _
    have hnext : ∀ u, Sound (next u) := by
      refine fun _ => (sound_skipIf _).bind fun _ => sound_ite (sound_pure _) ?_
      refine (sound_skipIf _).bind fun _ => sound_ite ((sound_flowPair h _).bind hadd) ?_
      exact (h _ _).bind fun _ => (sound_add _).bind fun _ => (sound_pure _).bind hadd
    exact sound_ite ((sound_skipIf _).bind fun _ => sound_unless hnext) (hnext ())

/-! ### Nodes -/

lemma sound_content (fuel : Nat) (block loose : Bool) (anchor? tag? : Option Text) :
    Sound (content node fuel block loose anchor? tag?) := by
  unfold content
  -- the three forms of nodes, each read behind the tokens that begin it
  extract_lets k asSequence k' asMapping asScalar
  have hsequence : ∀ items, Sound items → Sound (asSequence items) := fun _ hitems =>
    (sound_declare _ _).bind fun i => hitems.bind fun _ =>
      (sound_put i _).bind fun _ => sound_pure i
  have hmapping : ∀ entries, Sound entries → Sound (asMapping entries) := fun _ hentries =>
    (sound_declare _ _).bind fun i => hentries.bind fun _ =>
      (sound_put i _).bind fun _ => sound_pure i
  have hscalar : ∀ usual text, Sound (asScalar usual text) := fun _ _ => sound_declare _ _
  refine sound_peek.bind fun t => ?_
  split
  · exact hsequence _ (sound_looseItems h fuel)
  · exact sound_skip.bind fun _ => hscalar _ _
  · exact hsequence _ (sound_skip.bind fun _ => sound_flowItems h _ fuel)
  · exact hmapping _ (sound_skip.bind fun _ => sound_flowEntries h _ fuel)
  · exact hsequence _ (sound_skip.bind fun _ => sound_blockItems h fuel)
  · exact hmapping _ (sound_skip.bind fun _ => sound_blockEntries h fuel)
  · exact sound_ite (hscalar _ _) (sound_fail _)

end

/-- Nodes are read from the readers of what they hold, so this is by induction on the fuel. -/
lemma sound_node (fuel : Nat) (block loose : Bool) : Sound (node fuel block loose) := by
  induction fuel generalizing block loose with
  | zero => exact sound_fail _
  | succ fuel ih =>
    unfold node
    refine sound_peek.bind fun t => ?_
    split
    · exact sound_skip.bind fun _ => sound_find _
    · refine sound_properties.bind fun ⟨anchor?, tag?⟩ => ?_
      cases tag? with
      | none => exact (sound_pure _).bind fun _ => sound_content ih _ _ _ _ _
      | some t =>
        have hexpand : Sound (Option.mapM expand (some t)) :=
          (sound_expand t).bind fun _ => sound_pure _
        exact hexpand.bind fun _ => sound_content ih _ _ _ _ _

/-! ### Documents -/

lemma sound_directives (version : Bool) (handles : List (Text × Text)) (fuel : Nat) :
    Sound (directives version handles fuel) := by
  induction fuel generalizing version handles with
  | zero => exact sound_fail _
  | succ fuel ih =>
    unfold directives
    refine sound_peek.bind fun t => ?_
    split
    · extract_lets next checkMajor
      have hnext : ∀ u, Sound (next u) := fun _ => sound_skip.bind fun _ => ih _ _
      have hcheckMajor : ∀ u, Sound (checkMajor u) := fun _ => sound_unless hnext
      exact sound_unless hcheckMajor
    · extract_lets next
      have hnext : ∀ u, Sound (next u) := fun _ => sound_skip.bind fun _ => ih _ _
      exact sound_unless hnext
    · exact sound_skip.bind fun _ => ih _ _
    · exact sound_modify fun _ => rfl

lemma sound_skipEnds (fuel : Nat) : Sound (skipEnds fuel) := by
  induction fuel with
  | zero => exact sound_pure _
  | succ fuel ih => exact (sound_skipIf _).bind fun _ => sound_ite ih (sound_pure _)

lemma sound_opening (fuel : Nat) : Sound (opening fuel) := by
  refine (sound_directives _ _ _).bind fun _ => sound_peek.bind fun t => ?_
  split
  · exact sound_skip
  · exact sound_fail _

lemma sound_document (fuel : Nat) : Sound (document fuel) := by
  unfold document
  refine sound_peek.bind fun t => ?_
  extract_lets finish
  have hfinish : ∀ n, Sound (finish n) := by
    refine fun n => (sound_skipEnds _).bind fun _ => (sound_sees _).bind fun _ => ?_
    refine sound_ite ((sound_opening _).bind fun _ => ?_) (sound_pure _)
    exact (sound_fail _).bind fun _ => sound_pure _
  have hnode : Sound (node fuel true false >>= finish) := (sound_node _ _ _).bind hfinish
  have hempty : Sound (add empty >>= finish) := (sound_add _).bind hfinish
  split
  case h_1 => exact sound_pure _
  case h_4 => exact hnode
  all_goals
    refine (sound_opening _).bind fun _ => sound_peek.bind fun t => ?_
    split
    · exact hempty
    · exact hempty
    · exact hempty
    · exact hempty
    · exact hnode

end Node.Reading

/-- The nodes of a text are made of tokens, so a fault in them is one of the text. -/
lemma Graph.ofText_raises (t : Text) : Raises OfSyntax (Graph.ofText t) := by
  have hstart : Node.Reading.Announces
      ⟨(Token.read t).1, (Token.read t).2, Node.Reading.defaultHandles, #[], []⟩ :=
    fun _ => Token.ofSyntax_of_read
  have hdocument := (Node.Reading.sound_document (3 * (Token.read t).1.length + 8) _ hstart).1
  exact Raises.bind_iff.mpr ⟨hdocument, fun _ _ => Raises.pure _⟩

end Settle.Yaml

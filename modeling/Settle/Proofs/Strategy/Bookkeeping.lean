import Mathlib.Tactic.Lemma
import Settle.Wait.Strategy

/-!
# Bookkeeping

What is done to an object before its fields are looked at is done to its entries one by one, and
takes nothing but the bookkeeping in its metadata away. So objects that differ in nothing else are
the same to a wait for fields.
-/

namespace Settle

namespace Strategy

/-- An entry of an object without the bookkeeping in it. -/
def stripEntry (e : Text × Value) : Text × Value :=
  let metadata : Text := "metadata"
  if e.1 = metadata then (e.1, stripMetadata e.2) else e

lemma strip_map (es : List (Text × Value)) : strip (.map es) = .ok (.map (es.map stripEntry)) := rfl

@[simp] lemma stripEntry_fst (e : Text × Value) : (stripEntry e).1 = e.1 := by
  simp only [stripEntry]
  split <;> rfl

/-- The metadata of two objects differ in bookkeeping only, and nothing else differs. -/
inductive SameButBookkeeping : Value → Value → Prop where
  | intro (before behind : List (Text × Value)) {es fs : List (Text × Value)}
      (h : (es.filter fun e => e.1 ≠ bookkeeping) = fs.filter fun e => e.1 ≠ bookkeeping) :
      SameButBookkeeping (.map (before ++ (("metadata" : Text), Value.map es) :: behind))
        (.map (before ++ (("metadata" : Text), Value.map fs) :: behind))

lemma SameButBookkeeping.strip_eq {v w : Value} (h : SameButBookkeeping v w) :
    strip v = strip w := by
  obtain ⟨before, behind, h⟩ := h
  have hentry : ∀ es : List (Text × Value), stripEntry (("metadata" : Text), .map es)
      = (("metadata" : Text), .map (es.filter fun e => e.1 ≠ bookkeeping)) := fun _ => rfl
  simp only [strip_map, List.map_append, List.map_cons, hentry, h]

/-- A wait for fields sees no difference in bookkeeping. -/
theorem SameButBookkeeping.isDone_eq {v w : Value} (h : SameButBookkeeping v w)
    (matchers : List Matcher) (shape? : Option Shape) (hints : Hints) :
    isDone v (.fields matchers shape? hints) = isDone w (.fields matchers shape? hints) := by
  rw [isDone, isDone, h.strip_eq]

end Strategy

end Settle

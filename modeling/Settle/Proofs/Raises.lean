import Mathlib.Tactic.Lemma
import Settle.Failure

/-!
# Failures of a computation

Of what kind the failures of a computation are is followed through its steps: it is known of the
whole if it is known of each of them.
-/

namespace Settle

/-- Every failure of a computation is of some kind. -/
def Raises {α : Type} (P : Failure → Prop) (x : Except Failure α) : Prop := ∀ e, x = .error e → P e

namespace Raises

variable {α β : Type} {P : Failure → Prop}

@[simp] lemma ok (a : α) : Raises P (.ok a) := by
  intro e h
  cases h

@[simp] lemma pure (a : α) : Raises P (pure a) := ok a

@[simp] lemma error_iff {e : Failure} : Raises P (.error e : Except Failure α) ↔ P e :=
  ⟨fun h => h e rfl, fun h _ he => Except.error.inj he ▸ h⟩

@[simp] lemma bind_iff {x : Except Failure α} {f : α → Except Failure β} :
    Raises P (x >>= f) ↔ Raises P x ∧ ∀ a, x = .ok a → Raises P (f a) := by
  cases x with
  | error e => simp [bind, Except.bind]
  | ok a => simp [bind, Except.bind]

@[simp] lemma ite_iff {c : Prop} [Decidable c] {x y : Except Failure α} :
    Raises P (if c then x else y) ↔ (c → Raises P x) ∧ (¬ c → Raises P y) := by
  by_cases h : c <;> simp [h]

@[simp] lemma map_iff {x : Except Failure α} {f : α → β} :
    Raises P (x.map f) ↔ Raises P x := by
  cases x <;> simp [Except.map]

@[simp] lemma functorMap_iff {x : Except Failure α} {f : α → β} :
    Raises P (f <$> x) ↔ Raises P x := map_iff

/-- A kind of failures may be replaced by a wider one. -/
lemma mono {Q : Failure → Prop} {x : Except Failure α} (h : Raises P x) (hPQ : ∀ e, P e → Q e) :
    Raises Q x := fun e he => hPQ e (h e he)

lemma mapError {ε : Type} {x : Except ε α} {f : ε → Failure} (h : ∀ e, P (f e)) :
    Raises P (x.mapError f) := by
  cases x with
  | error e => exact error_iff.mpr (h e)
  | ok a => exact ok a

lemma mapM {xs : List α} {f : α → Except Failure β} (h : ∀ a ∈ xs, Raises P (f a)) :
    Raises P (xs.mapM f) := by
  induction xs with
  | nil => exact pure []
  | cons a as ih =>
    have has := ih fun a' ha' => h a' (List.mem_cons_of_mem a ha')
    simp [List.mapM_cons, h a List.mem_cons_self, has]

end Raises

end Settle

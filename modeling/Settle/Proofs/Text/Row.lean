import Mathlib.Data.List.DropRight
import Mathlib.Data.List.TakeWhile
import Mathlib.Tactic.Lemma
import Settle.Text.Basic

/-!
# Rows of one class

A row of code points of one class, in front of a text that begins with none of the class, is what
a reader takes that goes as far as the class does. Blanks at the ends of a text are dropped once.
-/

namespace Settle

namespace Text

variable {p q : CodePoint → Bool} {ds r t : Text}

lemma dropWhile_of_head (h : ∀ c ∈ t.head?, ¬ p c) : t.dropWhile p = t := by
  cases t with
  | nil => rfl
  | cons c t => rw [List.dropWhile_cons_of_neg (h c rfl)]

lemma takeWhile_row (row : ∀ d ∈ ds, p d) (stop : ∀ c ∈ r.head?, ¬ p c) :
    (ds ++ r).takeWhile p = ds := by
  rw [List.takeWhile_append_of_pos row]
  cases r with
  | nil => simp
  | cons c r => rw [List.takeWhile_cons_of_neg (stop c rfl), List.append_nil]

lemma dropWhile_row (row : ∀ d ∈ ds, p d) (stop : ∀ c ∈ r.head?, ¬ p c) :
    (ds ++ r).dropWhile p = r := by
  rw [List.dropWhile_append_of_pos row, dropWhile_of_head stop]

lemma not_of_mem_head?_dropWhile {c : CodePoint} (h : c ∈ (t.dropWhile p).head?) : ¬ p c := by
  have hnot := List.head?_dropWhile_not p t
  rw [h] at hnot
  simpa using hnot

/-- Every text is a row of a class and a rest that begins with none of the class. -/
lemma exists_row (p : CodePoint → Bool) (t : Text) :
    ∃ ds r, t = ds ++ r ∧ (∀ d ∈ ds, p d) ∧ ∀ c ∈ r.head?, ¬ p c :=
  ⟨t.takeWhile p, t.dropWhile p, List.takeWhile_append_dropWhile.symm,
    fun _ => List.mem_takeWhile_imp, fun _ => not_of_mem_head?_dropWhile⟩

/-! ### Ends -/

/-- No code point of a class is at either end. -/
structure IsTrimmed (p : CodePoint → Bool) (t : Text) : Prop where
  head : ∀ c ∈ t.head?, ¬ p c
  last : ∀ c ∈ t.getLast?, ¬ p c

lemma IsTrimmed.mono (h : IsTrimmed p t) (hq : ∀ c, q c → p c) : IsTrimmed q t :=
  ⟨fun c hc => mt (hq c) (h.head c hc), fun c hc => mt (hq c) (h.last c hc)⟩

lemma IsTrimmed.trim_eq (h : IsTrimmed p t) : t.trim p = t := by
  have hlast : ∀ c ∈ t.reverse.head?, ¬ p c := by simpa using h.last
  rw [trim, dropWhile_of_head h.head, dropWhile_of_head hlast, List.reverse_reverse]

lemma isTrimmed_trim (p : CodePoint → Bool) (t : Text) : IsTrimmed p (t.trim p) := by
  constructor
  · intro c hc
    obtain ⟨r, hr⟩ : t.trim p <+: t.dropWhile p := List.rdropWhile_prefix p _
    refine not_of_mem_head?_dropWhile (t := t) ?_
    rw [← hr, List.head?_append_of_ne_nil _ (by rintro h; simp [h] at hc)]
    exact hc
  · intro c hc
    rw [trim, List.getLast?_reverse] at hc
    exact not_of_mem_head?_dropWhile hc

end Text

end Settle

import Mathlib.Data.List.Basic
import Settle.Number.Literal
import Settle.Proofs.Text.Digit

/-!
# Numerals of floating-point numbers

A floating-point number may be written with digits of any script, among which single low lines may
stand, with a point, and with an exponent; the infinity and not-a-number have names. Each of them
may have a sign.
-/

namespace Settle

namespace Literal

open CodePoint

/-- Digits with single low lines between them, and the digits alone. -/
inductive Digits : Text → Text → Prop where
  | last {d : CodePoint} (hd : d.isDecimal = true) : Digits [d] [d]
  | next {d : CodePoint} {t ds : Text} (hd : d.isDecimal = true) (h : Digits t ds) :
    Digits (d :: t) (d :: ds)
  | spaced {d : CodePoint} {t ds : Text} (hd : d.isDecimal = true) (h : Digits t ds) :
    Digits (d :: '_' :: t) (d :: ds)

/-- An optional sign, and whether it is the negative one. -/
inductive Sign : Text → Bool → Prop where
  | absent : Sign [] false
  | plus : Sign ['+'] false
  | minus : Sign ['-'] true

/-- Digits with an optional point, at either end or between them. All digits are kept, and it is
counted how many of them stand behind the point. -/
inductive Mantissa : Text → Text → Nat → Prop where
  | whole {t ds : Text} (h : Digits t ds) : Mantissa t ds 0
  | pointed {t ds : Text} (h : Digits t ds) : Mantissa (t ++ [CodePoint.ofChar '.']) ds 0
  | mixed {t u ds es : Text} (h : Digits t ds) (h' : Digits u es) :
    Mantissa (t ++ CodePoint.ofChar '.' :: u) (ds ++ es) es.length
  | fraction {u es : Text} (h : Digits u es) : Mantissa ('.' :: u) es es.length

/-- The natural number that digits of any script denote. -/
def value (ds : Text) : Nat := Text.number 10 decimalValue ds

/-- An optional exponent. -/
inductive Exponent : Text → Int → Prop where
  | absent : Exponent [] 0
  | present {m : CodePoint} {s t ds : Text} {negative : Bool} (hm : m = 'e' ∨ m = 'E')
    (hs : Sign s negative) (h : Digits t ds) :
    Exponent (m :: (s ++ t)) (if negative then -(value ds : Int) else value ds)

/-- A capital letter replaced by the small one. -/
def small (c : CodePoint) : CodePoint :=
  if c.isUpper then (ofNat? (c.val + 32)).getD c else c

/-- The floating-point number that a text denotes. -/
inductive Denotes : Text → Binary64 → Prop where
  | infinity {s n : Text} {negative : Bool} (hs : Sign s negative)
    (hn : n.map small = "inf" ∨ n.map small = "infinity") : Denotes (s ++ n) (.infinite negative)
  | nan {s n : Text} {negative : Bool} (hs : Sign s negative) (hn : n.map small = "nan") :
    Denotes (s ++ n) .nan
  | decimal {s m e ds : Text} {negative : Bool} {places : Nat} {exponent : Int}
    (hs : Sign s negative) (hm : Mantissa m ds places) (he : Exponent e exponent) :
    Denotes (s ++ (m ++ e)) (Binary64.ofDecimal negative (value ds) (exponent - places))

variable {t ds : Text} {negative : Bool}

lemma Digits.isDecimal (h : Digits t ds) : ∀ d ∈ ds, d.isDecimal = true := by
  induction h with
  | last hd => simpa using hd
  | next hd _ ih => simpa [hd] using ih
  | spaced hd _ ih => simpa [hd] using ih

lemma Digits.ne_nil (h : Digits t ds) : ds ≠ [] := by
  cases h <;> exact List.cons_ne_nil _ _

lemma Mantissa.isDecimal {places : Nat} (h : Mantissa t ds places) :
    ∀ d ∈ ds, d.isDecimal = true := by
  cases h with
  | whole h | pointed h | fraction h => exact h.isDecimal
  | mixed h h' => exact List.forall_mem_append.mpr ⟨h.isDecimal, h'.isDecimal⟩

/-! ### Ends -/

lemma Digits.text_ne_nil (h : Digits t ds) : t ≠ [] := by
  cases h <;> exact List.cons_ne_nil _ _

lemma Digits.last_isDecimal (h : Digits t ds) : ∀ c ∈ t.getLast?, c.isDecimal = true := by
  induction h with
  | last hd =>
    rintro c ⟨⟩
    exact hd
  | @next d t ds hd h ih =>
    rwa [← List.singleton_append, List.getLast?_append_of_ne_nil _ h.text_ne_nil]
  | @spaced d t ds hd h ih =>
    change ∀ c ∈ ([d, CodePoint.ofChar '_'] ++ t).getLast?, c.isDecimal = true
    rwa [List.getLast?_append_of_ne_nil _ h.text_ne_nil]

lemma Mantissa.last_eq {places : Nat} (h : Mantissa t ds places) :
    t ≠ [] ∧ ∀ c ∈ t.getLast?, c.isDecimal = true ∨ c = CodePoint.ofChar '.' := by
  cases h with
  | whole h => exact ⟨h.text_ne_nil, fun c hc => Or.inl (h.last_isDecimal c hc)⟩
  | @pointed t ds h =>
    refine ⟨by simp, fun c hc => Or.inr ?_⟩
    rw [List.getLast?_concat] at hc
    exact (Option.some.inj hc).symm
  | @mixed t u ds es h h' =>
    refine ⟨by simp, fun c hc => Or.inl (h'.last_isDecimal c ?_)⟩
    rwa [List.getLast?_append_of_ne_nil _ (List.cons_ne_nil _ _), ← List.singleton_append,
      List.getLast?_append_of_ne_nil _ h'.text_ne_nil] at hc
  | fraction h =>
    refine ⟨by simp, fun c hc => Or.inl (h.last_isDecimal c ?_)⟩
    rwa [← List.singleton_append, List.getLast?_append_of_ne_nil _ h.text_ne_nil] at hc

/-- A number ends in a digit, in the point or in the last letter of a name. -/
lemma Denotes.last_eq {x : Binary64} (h : Denotes t x) : ∀ c ∈ t.getLast?,
    c.isDecimal = true ∨ c = CodePoint.ofChar '.' ∨ small c ∈ ("fyn" : Text) := by
  have hname : ∀ {s n w : Text}, n.map small = w → w ≠ [] → (∀ l ∈ w.getLast?, l ∈ ("fyn" : Text)) →
      ∀ c ∈ (s ++ n).getLast?, small c ∈ ("fyn" : Text) := by
    rintro s n w rfl hne hlast c hc
    rw [List.getLast?_append_of_ne_nil _ (by simpa using hne)] at hc
    refine hlast (small c) ?_
    rw [List.getLast?_map, hc]
    rfl
  intro c hc
  cases h with
  | infinity hs hn =>
    rcases hn with hn | hn
    · exact Or.inr (Or.inr (hname hn (by decide) (by rintro l ⟨⟩; decide) c hc))
    · exact Or.inr (Or.inr (hname hn (by decide) (by rintro l ⟨⟩; decide) c hc))
  | nan hs hn => exact Or.inr (Or.inr (hname hn (by decide) (by rintro l ⟨⟩; decide) c hc))
  | decimal hs hm he =>
    obtain ⟨hne, hlast⟩ := hm.last_eq
    rw [List.getLast?_append_of_ne_nil _ (by simp [hne])] at hc
    cases he with
    | absent =>
      rw [List.append_nil] at hc
      exact (hlast c hc).imp_right Or.inl
    | @present m s t ds negative hm hs h =>
      refine Or.inl (h.last_isDecimal c ?_)
      rwa [List.getLast?_append_of_ne_nil _ (List.cons_ne_nil _ _), ← List.cons_append,
        List.getLast?_append_of_ne_nil _ h.text_ne_nil] at hc

end Literal

end Settle

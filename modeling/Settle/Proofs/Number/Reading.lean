import Settle.Proofs.Number.Grammar
import Settle.Proofs.Text.Row

/-!
# Reading numbers by their grammar

The reader replaces digits of other scripts, takes low lines out, and then looks at the sign, at
names, the mantissa and the exponent. What it has left at each step belongs to the rest of the
text, so it takes exactly the texts of the grammar, for the numbers that they denote.
-/

namespace Settle

namespace Literal

open CodePoint

/-- A digit of any script replaced by the ASCII one. -/
def plain (c : CodePoint) : CodePoint :=
  match c.decimalValue? with
  | some d => Decimal.digit d
  | none   => c

variable {c d : CodePoint} {t u ds es r : Text} {b negative : Bool}

lemma plain_of_isDecimal (h : c.isDecimal = true) : plain c = Decimal.digit c.decimalValue := by
  rw [plain, decimalValue?_eq h]

lemma plain_of_not_isDecimal (h : c.isDecimal = false) : plain c = c := by
  rw [isDecimal, Option.isSome_eq_false_iff, Option.isNone_iff_eq_none] at h
  rw [plain, h]

lemma isDigit_plain (c : CodePoint) : (plain c).isDigit = c.isDecimal := by
  cases h : c.isDecimal with
  | true => rw [plain_of_isDecimal h, Decimal.isDigit_digit]
  | false =>
    rw [plain_of_not_isDecimal h]
    exact Bool.eq_false_iff.mpr fun hdigit => by simp [isDecimal_of_isDigit hdigit] at h

/-- Only the digits are replaced. -/
lemma plain_eq_iff (hd : d.isDecimal = false) : plain c = d ↔ c = d := by
  constructor
  · intro h
    cases hc : c.isDecimal with
    | true =>
      have hdigit := isDigit_plain c
      rw [h, hc] at hdigit
      simp [isDecimal_of_isDigit hdigit] at hd
    | false => rw [← plain_of_not_isDecimal hc, h]
  · rintro rfl
    exact plain_of_not_isDecimal hd

lemma digitValue_plain (h : c.isDecimal = true) :
    Decimal.digitValue (plain c) = c.decimalValue := by
  rw [plain_of_isDecimal h, Decimal.digitValue_digit, Nat.mod_eq_of_lt (decimalValue_lt h)]

lemma plain_of_isAscii (h : c.isAscii = true) : plain c = c := by
  cases hc : c.isDecimal with
  | false => exact plain_of_not_isDecimal hc
  | true =>
    have hdigit := isDigit_of_isAscii h hc
    obtain ⟨hle, hle'⟩ := Decimal.isDigit_iff.mp hdigit
    rw [plain, decimalValue?_of_isDigit hdigit]
    refine Fin.ext ?_
    have hzero : '0'.toNat = 0x30 := rfl
    simp only [Decimal.digit, Decimal.digitValue, hzero]
    omega

/-- A text without blanks at its ends is read with its digits replaced. -/
lemma normalize_eq (h : Text.IsTrimmed isBlank t) : normalize t = t.map plain := by
  unfold normalize
  split
  · next hascii =>
    rw [(h.mono fun _ => isBlank_of_isAsciiBlank).trim_eq]
    have hplain : ∀ c ∈ t, plain c = c := fun c hc =>
      plain_of_isAscii (List.all_eq_true.mp hascii c hc)
    rw [List.map_congr_left hplain, List.map_id']
  · rw [h.trim_eq]
    rfl

lemma value_eq (hds : ∀ d ∈ ds, d.isDecimal = true) : Decimal.value (ds.map plain) = value ds := by
  rw [Decimal.value_eq_number, value, Text.number, Text.number, ← List.map_reverse, List.map_map]
  refine congrArg _ (List.map_congr_left fun d hd => ?_)
  exact digitValue_plain (hds d (List.mem_reverse.mp hd))

lemma isDigit_of_mem_map_plain (hds : ∀ d ∈ ds, d.isDecimal = true) :
    ∀ d ∈ ds.map plain, d.isDigit := by
  intro d hd
  obtain ⟨c, hc, rfl⟩ := List.mem_map.mp hd
  rw [isDigit_plain, hds c hc]

/-! ### Low lines -/

lemma plain_ne_of_isDecimal (h : c.isDecimal = true) (hd : d.isDecimal = false) : plain c ≠ d := by
  intro he
  rw [plain_eq_iff hd] at he
  rw [he, hd] at h
  cases h

lemma dropLowLines_cons (hc : c ≠ CodePoint.ofChar '_') :
    dropLowLines b (c :: r) = (dropLowLines c.isDigit r).map (c :: ·) := if_neg hc

lemma dropLowLines_line (b : Bool) (r : Text) : dropLowLines b (CodePoint.ofChar '_' :: r)
    = if b && r.head?.any CodePoint.isDigit then dropLowLines false r else none := if_pos rfl

/-- What is in front of the rest is digits, after which a low line may stand. -/
lemma Digits.dropLowLines_eq (h : Digits t ds) (b : Bool) (r : Text) :
    dropLowLines b (t.map plain ++ r) = (dropLowLines true r).map (ds.map plain ++ ·) := by
  induction h generalizing b with
  | last hd =>
    rw [List.map_singleton, List.singleton_append,
      dropLowLines_cons (plain_ne_of_isDecimal hd (by decide)), isDigit_plain, hd]
    rfl
  | next hd h ih =>
    rw [List.map_cons, List.cons_append, dropLowLines_cons (plain_ne_of_isDecimal hd (by decide)),
      isDigit_plain, hd, ih, Option.map_map]
    rfl
  | @spaced d t ds hd h ih =>
    have hhead : ((t.map plain ++ r).head?).any CodePoint.isDigit = true := by
      cases h <;> simpa [isDigit_plain] using ‹_›
    have hline : plain (ofChar '_') = ofChar '_' := by decide
    rw [List.map_cons, List.map_cons, List.cons_append, List.cons_append,
      dropLowLines_cons (plain_ne_of_isDecimal hd (by decide)), isDigit_plain, hd, hline,
      dropLowLines_line, hhead, Bool.true_and, if_pos rfl, ih, Option.map_map]
    rfl

/-- What a text comes to without low lines begins as the text does. -/
lemma exists_of_dropLowLines_cons (hd : d ≠ CodePoint.ofChar '_')
    (h : dropLowLines false (t.map plain) = some (d :: u)) :
    ∃ c t', t = c :: t' ∧ plain c = d ∧ dropLowLines d.isDigit (t'.map plain) = some u := by
  cases t with
  | nil => cases h
  | cons c t =>
    by_cases hc : plain c = CodePoint.ofChar '_'
    · rw [List.map_cons, hc, dropLowLines_line] at h
      cases h
    · rw [List.map_cons, dropLowLines_cons hc] at h
      obtain ⟨u', hu', he⟩ := Option.map_eq_some_iff.mp h
      cases he
      exact ⟨c, t, rfl, rfl, hu'⟩

lemma eq_nil_of_dropLowLines (h : dropLowLines false (t.map plain) = some []) : t = [] := by
  cases t with
  | nil => rfl
  | cons c t =>
    by_cases hc : plain c = CodePoint.ofChar '_'
    · rw [List.map_cons, hc, dropLowLines_line] at h
      cases h
    · rw [List.map_cons, dropLowLines_cons hc] at h
      simp at h

/-- After a digit a low line may have been taken out, in front of another digit. -/
lemma dropLowLines_true_cases (h : dropLowLines true (t.map plain) = some u) :
    dropLowLines false (t.map plain) = some u ∨
      ∃ t', t = CodePoint.ofChar '_' :: t' ∧ (∃ d ∈ u.head?, d.isDigit = true) ∧
        dropLowLines false (t'.map plain) = some u := by
  cases t with
  | nil => exact Or.inl h
  | cons c t =>
    by_cases hc : plain c = CodePoint.ofChar '_'
    · right
      rw [plain_eq_iff (by decide)] at hc
      subst hc
      have hline : plain (ofChar '_') = ofChar '_' := by decide
      rw [List.map_cons, hline, dropLowLines_line] at h
      split at h
      · next hdigit =>
        refine ⟨t, rfl, ?_, h⟩
        cases t with
        | nil => cases hdigit
        | cons c t =>
          have hc : (plain c).isDigit = true := by simpa using hdigit
          rw [isDigit_plain] at hc
          rw [List.map_cons, dropLowLines_cons (plain_ne_of_isDecimal hc (by decide))] at h
          obtain ⟨u', -, he⟩ := Option.map_eq_some_iff.mp h
          exact ⟨plain c, by rw [← he]; rfl, by rw [isDigit_plain, hc]⟩
      · cases h
    · left
      rwa [List.map_cons, dropLowLines_cons hc] at h ⊢

/-- Digits that are left without low lines are a row of digits in the text. -/
lemma exists_digits (hne : ds ≠ []) (hds : ∀ d ∈ ds, d.isDigit) (hr : ∀ c ∈ r.head?, ¬ c.isDigit)
    (h : dropLowLines false (t.map plain) = some (ds ++ r)) :
    ∃ p t' es, t = p ++ t' ∧ Digits p es ∧ es.map plain = ds ∧
      dropLowLines false (t'.map plain) = some r := by
  induction ds generalizing t with
  | nil => exact absurd rfl hne
  | cons d ds ih =>
    obtain ⟨hd, hrow⟩ := List.forall_mem_cons.mp hds
    have hline : d ≠ CodePoint.ofChar '_' := by rintro rfl; exact absurd hd (by decide)
    obtain ⟨c, t, rfl, rfl, hrest⟩ := exists_of_dropLowLines_cons hline h
    have hc : c.isDecimal = true := by rwa [isDigit_plain] at hd
    rw [hd] at hrest
    by_cases hempty : ds = []
    · subst hempty
      obtain hrest | ⟨_, _, ⟨e, he, hdigit⟩, _⟩ := dropLowLines_true_cases hrest
      · exact ⟨[c], t, [c], rfl, .last hc, rfl, hrest⟩
      · exact absurd hdigit (hr e he)
    · obtain hrest | ⟨t, rfl, -, hrest⟩ := dropLowLines_true_cases hrest
      · obtain ⟨p, t', es, rfl, hp, rfl, ht'⟩ := ih hempty hrow hrest
        exact ⟨c :: p, t', c :: es, rfl, .next hc hp, rfl, ht'⟩
      · obtain ⟨p, t', es, rfl, hp, rfl, ht'⟩ := ih hempty hrow hrest
        exact ⟨c :: CodePoint.ofChar '_' :: p, t', c :: es, rfl, .spaced hc hp, rfl, ht'⟩

/-! ### Signs -/

lemma Sign.map_plain {s : Text} (h : Sign s negative) : s.map plain = s := by
  cases h <;> decide

lemma Sign.dropLowLines_eq {s : Text} (h : Sign s negative) (r : Text) :
    dropLowLines false (s ++ r) = (dropLowLines false r).map (s ++ ·) := by
  cases h with
  | absent => simp
  | plus | minus => exact dropLowLines_cons (by decide)

lemma Sign.sign_eq {s : Text} (h : Sign s negative)
    (hr : ∀ c ∈ r.head?, c ≠ CodePoint.ofChar '-' ∧ c ≠ CodePoint.ofChar '+') :
    sign (s ++ r) = (negative, r) := by
  cases h with
  | plus | minus => rfl
  | absent =>
    cases r with
    | nil => rfl
    | cons c r => simp [sign, hr c rfl]

lemma exists_sign (h : dropLowLines false (t.map plain) = some u) :
    ∃ s t', t = s ++ t' ∧ Sign s (sign u).1 ∧
      dropLowLines false (t'.map plain) = some (sign u).2 := by
  cases u with
  | nil => exact ⟨[], t, rfl, .absent, h⟩
  | cons d u =>
    have hmark : ∀ e, e = CodePoint.ofChar '-' ∨ e = CodePoint.ofChar '+' → d = e →
        ∃ t', t = e :: t' ∧ dropLowLines false (t'.map plain) = some u := by
      rintro e he rfl
      obtain ⟨c, t, rfl, hc, hrest⟩ :=
        exists_of_dropLowLines_cons (by rcases he with rfl | rfl <;> decide) h
      rw [plain_eq_iff (by rcases he with rfl | rfl <;> decide)] at hc
      subst hc
      refine ⟨t, rfl, ?_⟩
      rcases he with rfl | rfl <;> exact hrest
    by_cases hminus : d = CodePoint.ofChar '-'
    · obtain ⟨t, rfl, hrest⟩ := hmark _ (Or.inl rfl) hminus
      rw [hminus]
      exact ⟨[CodePoint.ofChar '-'], t, rfl, .minus, hrest⟩
    · by_cases hplus : d = CodePoint.ofChar '+'
      · obtain ⟨t, rfl, hrest⟩ := hmark _ (Or.inr rfl) hplus
        rw [hplus]
        exact ⟨[CodePoint.ofChar '+'], t, rfl, .plus, hrest⟩
      · rw [sign, if_neg hminus, if_neg hplus]
        exact ⟨[], t, rfl, .absent, h⟩

/-! ### Exponents -/

lemma exponent?_digits {m : CodePoint} {s : Text} (hm : m = 'e' ∨ m = 'E') (hs : Sign s negative)
    (hds : ∀ d ∈ ds, d.isDecimal = true) (hne : ds ≠ []) :
    exponent? (m :: (s ++ ds.map plain))
      = some (if negative then -(value ds : Int) else value ds) := by
  have hdigits := isDigit_of_mem_map_plain hds
  have hsign : sign (s ++ ds.map plain) = (negative, ds.map plain) := by
    refine hs.sign_eq fun c hc => ?_
    have hdigit := hdigits c (List.mem_of_mem_head? hc)
    constructor <;> (rintro rfl; exact absurd hdigit (by decide))
  have hmark : (m = CodePoint.ofChar 'e' || m = CodePoint.ofChar 'E') = true := by simpa using hm
  rw [exponent?, if_pos hmark, hsign]
  have hrow : ((ds.map plain).isEmpty || !(ds.map plain).all CodePoint.isDigit) = false := by
    simpa [hne] using hdigits
  simp only [hrow, value_eq hds]
  rfl

/-- What an exponent comes to without low lines is read as its value. -/
lemma Exponent.exists_read {e : Int} (h : Exponent t e) :
    ∃ r, (∀ b, dropLowLines b (t.map plain) = some r) ∧ exponent? r = some e ∧
      ∀ c ∈ r.head?, ¬ c.isDigit ∧ c ≠ CodePoint.ofChar '.' := by
  cases h with
  | absent => exact ⟨[], fun _ => rfl, rfl, by simp⟩
  | @present m s t ds negative hm hs h =>
    have hmark : plain m = m ∧ m.isDigit = false ∧ m ≠ CodePoint.ofChar '_' ∧
        m ≠ CodePoint.ofChar '.' := by
      rcases hm with rfl | rfl <;> decide
    obtain ⟨hplain, hdigit, hline, hpoint⟩ := hmark
    refine ⟨m :: (s ++ ds.map plain), fun b => ?_, exponent?_digits hm hs h.isDecimal h.ne_nil, ?_⟩
    · have hdigits := h.dropLowLines_eq false []
      rw [List.append_nil] at hdigits
      rw [List.map_cons, List.map_append, hplain, hs.map_plain, dropLowLines_cons hline, hdigit,
        hs.dropLowLines_eq, hdigits]
      simp [dropLowLines]
    · rintro c ⟨⟩
      exact ⟨by simp [hdigit], hpoint⟩

lemma exponent_of_read {e : Int} (ht : dropLowLines false (t.map plain) = some r)
    (h : exponent? r = some e) : Exponent t e := by
  cases r with
  | nil =>
    cases h
    rw [eq_nil_of_dropLowLines ht]
    exact .absent
  | cons m r =>
    rw [exponent?] at h
    split at h
    · next hm =>
      have hm : m = 'e' ∨ m = 'E' := by simpa using hm
      obtain ⟨c, t, rfl, hc, hrest⟩ :=
        exists_of_dropLowLines_cons (by rcases hm with rfl | rfl <;> decide) ht
      rw [plain_eq_iff (by rcases hm with rfl | rfl <;> decide)] at hc
      have hdigit : m.isDigit = false := by rcases hm with rfl | rfl <;> decide
      rw [hdigit] at hrest
      obtain ⟨s, t, rfl, hs, hrest⟩ := exists_sign hrest
      dsimp only at h
      split at h
      · cases h
      · next hds =>
        obtain ⟨hne, hall⟩ : (sign r).2 ≠ [] ∧ ∀ d ∈ (sign r).2, d.isDigit := by
          simpa [List.isEmpty_iff] using hds
        obtain ⟨p, t, es, rfl, hp, hes, hend⟩ :=
          exists_digits (r := []) hne hall (by simp) (by rw [hrest, List.append_nil])
        rw [eq_nil_of_dropLowLines hend, List.append_nil, hc]
        rw [← hes, value_eq hp.isDecimal] at h
        cases h
        exact .present hm hs hp
    · cases h

/-! ### Decimals -/

lemma decimal?_whole (hds : ∀ d ∈ ds, d.isDigit) (hne : ds ≠ [])
    (hr : ∀ c ∈ r.head?, ¬ c.isDigit ∧ c ≠ CodePoint.ofChar '.') :
    decimal? negative (ds ++ r) = (exponent? r).map fun e =>
      Binary64.ofDecimal negative (Decimal.value ds) (e - (0 : Nat)) := by
  have hstop : ∀ c ∈ r.head?, ¬ c.isDigit := fun c hc => (hr c hc).1
  unfold decimal?
  rw [Text.takeWhile_row hds hstop, Text.dropWhile_row hds hstop]
  cases r with
  | nil => simp [hne]
  | cons c r => simp [hne, (hr c rfl).2]

lemma decimal?_pointed (hds : ∀ d ∈ ds, d.isDigit) (hes : ∀ d ∈ es, d.isDigit)
    (hne : ds ++ es ≠ []) (hr : ∀ c ∈ r.head?, ¬ c.isDigit) :
    decimal? negative (ds ++ CodePoint.ofChar '.' :: (es ++ r)) = (exponent? r).map fun e =>
      Binary64.ofDecimal negative (Decimal.value (ds ++ es)) (e - es.length) := by
  have hstop : ∀ c ∈ (CodePoint.ofChar '.' :: (es ++ r)).head?, ¬ c.isDigit := by
    rintro c ⟨⟩
    decide
  unfold decimal?
  rw [Text.takeWhile_row hds hstop, Text.dropWhile_row hds hstop]
  simp only [if_pos, Text.takeWhile_row hes hr, Text.dropWhile_row hes hr]
  rw [if_neg (by simpa using hne)]

lemma dropLowLines_point (b : Bool) (r : Text) : dropLowLines b (CodePoint.ofChar '.' :: r)
    = (dropLowLines false r).map (CodePoint.ofChar '.' :: ·) := dropLowLines_cons (by decide)

/-- A decimal begins with a digit or with the point. -/
def Begins (u : Text) : Prop := ∃ d ∈ u.head?, d.isDigit = true ∨ d = CodePoint.ofChar '.'

lemma begins_digits (hds : ∀ d ∈ ds, d.isDigit) (hne : ds ≠ []) : Begins (ds ++ r) := by
  obtain ⟨d, ds, rfl⟩ := List.exists_cons_of_ne_nil hne
  exact ⟨d, rfl, Or.inl (hds d List.mem_cons_self)⟩

lemma decimal?_no_digits (hr : ∀ c ∈ r.head?, ¬ c.isDigit) :
    (r.head? ≠ some (CodePoint.ofChar '.') → decimal? negative r = none) ∧
      decimal? negative (CodePoint.ofChar '.' :: r) = none := by
  constructor
  · intro hpoint
    cases r with
    | nil => rfl
    | cons c r =>
      have hc : c.isDigit = false := by simpa using hr c rfl
      have hpoint : c ≠ CodePoint.ofChar '.' := by simpa using hpoint
      simp [decimal?, hc, hpoint]
  · have hdot : (CodePoint.ofChar '.').isDigit = false := by decide
    cases r with
    | nil => rfl
    | cons c r =>
      have hc : c.isDigit = false := by simpa using hr c rfl
      simp [decimal?, hc, hdot]

/-- What a mantissa and an exponent come to without low lines is read as a decimal. -/
lemma Mantissa.exists_read {m e : Text} {places : Nat} {exponent : Int}
    (hm : Mantissa m ds places) (he : Exponent e exponent) :
    ∃ u, dropLowLines false ((m ++ e).map plain) = some u ∧ Begins u ∧
      ∀ negative, decimal? negative u
        = some (Binary64.ofDecimal negative (value ds) (exponent - places)) := by
  obtain ⟨r, hr, hexponent, hstop⟩ := he.exists_read
  have hpoint : plain (ofChar '.') = ofChar '.' := by decide
  have hdigit : ∀ c ∈ r.head?, ¬ c.isDigit := fun c hc => (hstop c hc).1
  cases hm with
  | @whole t ds h =>
    have hds := isDigit_of_mem_map_plain h.isDecimal
    have hne : ds.map plain ≠ [] := by simpa using h.ne_nil
    refine ⟨ds.map plain ++ r, ?_, begins_digits hds hne, fun negative => ?_⟩
    · rw [List.map_append, h.dropLowLines_eq, hr, Option.map_some]
    · rw [decimal?_whole hds hne hstop, hexponent, Option.map_some, value_eq h.isDecimal]
  | @pointed t ds h =>
    have hds := isDigit_of_mem_map_plain h.isDecimal
    have hne : ds.map plain ≠ [] := by simpa using h.ne_nil
    refine ⟨ds.map plain ++ CodePoint.ofChar '.' :: ([] ++ r), ?_, begins_digits hds hne,
      fun negative => ?_⟩
    · rw [List.append_assoc, List.map_append, h.dropLowLines_eq, List.singleton_append,
        List.map_cons, hpoint, dropLowLines_point, hr]
      rfl
    · rw [decimal?_pointed hds (by simp) (by simpa using h.ne_nil) hdigit, hexponent,
        Option.map_some, List.append_nil, value_eq h.isDecimal]
      rfl
  | @mixed t u ds es h h' =>
    have hds := isDigit_of_mem_map_plain h.isDecimal
    have hes := isDigit_of_mem_map_plain h'.isDecimal
    have hall : ∀ d ∈ ds ++ es, d.isDecimal = true := (Mantissa.mixed h h').isDecimal
    refine ⟨ds.map plain ++ CodePoint.ofChar '.' :: (es.map plain ++ r), ?_,
      begins_digits hds (by simpa using h.ne_nil), fun negative => ?_⟩
    · rw [List.append_assoc, List.map_append, h.dropLowLines_eq, List.cons_append, List.map_cons,
        hpoint, dropLowLines_point, List.map_append, h'.dropLowLines_eq, hr]
      rfl
    · rw [decimal?_pointed hds hes (by simp [h.ne_nil]) hdigit, hexponent, Option.map_some,
        ← List.map_append, value_eq hall, List.length_map]
  | fraction h =>
    have hds := isDigit_of_mem_map_plain h.isDecimal
    refine ⟨[] ++ CodePoint.ofChar '.' :: (ds.map plain ++ r), ?_, ⟨_, rfl, Or.inr rfl⟩,
      fun negative => ?_⟩
    · rw [List.cons_append, List.map_cons, hpoint, dropLowLines_point, List.map_append,
        h.dropLowLines_eq, hr]
      rfl
    · rw [decimal?_pointed (by simp) hds (by simpa using h.ne_nil) hdigit, hexponent,
        Option.map_some, List.nil_append, value_eq h.isDecimal, List.length_map]

/-- A decimal is digits with or without a point, and something else behind. -/
lemma decimal_cases (u : Text) :
    ∃ ds r, (∀ d ∈ ds, d.isDigit) ∧ ((u = ds ++ r ∧ ∀ c ∈ r.head?, ¬ c.isDigit ∧
        c ≠ CodePoint.ofChar '.') ∨
      ∃ es, u = ds ++ CodePoint.ofChar '.' :: (es ++ r) ∧ (∀ d ∈ es, d.isDigit) ∧
        ∀ c ∈ r.head?, ¬ c.isDigit) := by
  obtain ⟨ds, rest, rfl, hds, hrest⟩ := Text.exists_row CodePoint.isDigit u
  by_cases hpoint : ∃ r, rest = CodePoint.ofChar '.' :: r
  · obtain ⟨r, rfl⟩ := hpoint
    obtain ⟨es, r, rfl, hes, hr⟩ := Text.exists_row CodePoint.isDigit r
    exact ⟨ds, r, hds, Or.inr ⟨es, rfl, hes, hr⟩⟩
  · refine ⟨ds, rest, hds, Or.inl ⟨rfl, fun c hc => ⟨hrest c hc, ?_⟩⟩⟩
    rintro rfl
    cases rest with
    | nil => cases hc
    | cons d r =>
      cases hc
      exact hpoint ⟨r, rfl⟩

lemma exists_point (h : dropLowLines false (t.map plain) = some (CodePoint.ofChar '.' :: u)) :
    ∃ t', t = CodePoint.ofChar '.' :: t' ∧ dropLowLines false (t'.map plain) = some u := by
  obtain ⟨c, t, rfl, hc, hrest⟩ := exists_of_dropLowLines_cons (by decide) h
  rw [plain_eq_iff (by decide)] at hc
  exact ⟨t, by rw [hc], hrest⟩

/-- Digits that are left around a point are a mantissa in the text. -/
lemma exists_mantissa (hds : ∀ d ∈ ds, d.isDigit) (hes : ∀ d ∈ es, d.isDigit) (hne : ds ++ es ≠ [])
    (hr : ∀ c ∈ r.head?, ¬ c.isDigit)
    (h : dropLowLines false (t.map plain) = some (ds ++ CodePoint.ofChar '.' :: (es ++ r))) :
    ∃ m e ws, t = m ++ e ∧ Mantissa m ws es.length ∧ ws.map plain = ds ++ es ∧
      dropLowLines false (e.map plain) = some r := by
  by_cases hempty : ds = []
  · subst hempty
    obtain ⟨t, rfl, hrest⟩ := exists_point h
    obtain ⟨p, e, ws, rfl, hp, rfl, hend⟩ := exists_digits hne hes hr hrest
    refine ⟨CodePoint.ofChar '.' :: p, e, ws, rfl, ?_, rfl, hend⟩
    rw [List.length_map]
    exact .fraction hp
  · have hpoint : ∀ c ∈ (CodePoint.ofChar '.' :: (es ++ r)).head?, ¬ c.isDigit := by
      rintro c ⟨⟩
      decide
    obtain ⟨p, t, ws, rfl, hp, rfl, hbehind⟩ := exists_digits hempty hds hpoint h
    obtain ⟨t, rfl, hrest⟩ := exists_point hbehind
    by_cases hwhole : es = []
    · subst hwhole
      exact ⟨p ++ [CodePoint.ofChar '.'], t, ws, by simp, .pointed hp, by simp, hrest⟩
    · obtain ⟨q, e, us, rfl, hq, rfl, hend⟩ := exists_digits hwhole hes hr hrest
      refine ⟨p ++ CodePoint.ofChar '.' :: q, e, ws ++ us, by simp, ?_, List.map_append, hend⟩
      rw [List.length_map]
      exact .mixed hp hq

/-- What is read as a decimal is a mantissa and an exponent. -/
lemma mantissa_of_read {x : Binary64} (ht : dropLowLines false (t.map plain) = some u)
    (h : decimal? negative u = some x) :
    ∃ m e ds places exponent, t = m ++ e ∧ Mantissa m ds places ∧ Exponent e exponent ∧
      x = Binary64.ofDecimal negative (value ds) (exponent - (places : Nat)) := by
  obtain ⟨ds, r, hds, ⟨rfl, hr⟩ | ⟨es, rfl, hes, hr⟩⟩ := decimal_cases u
  · have hstop : ∀ c ∈ r.head?, ¬ c.isDigit := fun c hc => (hr c hc).1
    by_cases hne : ds = []
    · subst hne
      have hpoint : r.head? ≠ some (CodePoint.ofChar '.') := fun hc => (hr _ hc).2 rfl
      rw [List.nil_append, (decimal?_no_digits hstop).1 hpoint] at h
      cases h
    · rw [decimal?_whole hds hne hr] at h
      obtain ⟨exponent, hexponent, rfl⟩ := Option.map_eq_some_iff.mp h
      obtain ⟨m, e, ws, rfl, hm, rfl, hrest⟩ := exists_digits hne hds hstop ht
      exact ⟨m, e, ws, 0, exponent, rfl, .whole hm, exponent_of_read hrest hexponent,
        by rw [value_eq hm.isDecimal]⟩
  · by_cases hne : ds ++ es = []
    · obtain ⟨rfl, rfl⟩ := List.append_eq_nil_iff.mp hne
      rw [List.nil_append, List.nil_append, (decimal?_no_digits hr).2] at h
      cases h
    · rw [decimal?_pointed hds hes hne hr] at h
      obtain ⟨exponent, hexponent, rfl⟩ := Option.map_eq_some_iff.mp h
      obtain ⟨m, e, ws, rfl, hm, hws, hrest⟩ := exists_mantissa hds hes hne hr ht
      exact ⟨m, e, ws, es.length, exponent, rfl, hm, exponent_of_read hrest hexponent,
        by rw [← hws, value_eq hm.isDecimal]⟩

/-! ### Names -/

lemma not_isDecimal_of_isLetter (h : c.isLetter = true) : c.isDecimal = false := by
  have hcap : 'A'.toNat = 0x41 ∧ 'Z'.toNat = 0x5a := ⟨rfl, rfl⟩
  have hsmall : 'a'.toNat = 0x61 ∧ 'z'.toNat = 0x7a := ⟨rfl, rfl⟩
  simp only [isLetter, isUpper, isLower, between, hcap, hsmall, Bool.or_eq_true, Bool.and_eq_true,
    decide_eq_true_eq] at h
  refine Bool.eq_false_iff.mpr fun hc => ?_
  have hdigit := isDigit_of_isAscii (by rw [isAscii, decide_eq_true_eq]; omega) hc
  rw [Decimal.isDigit_iff] at hdigit
  omega

lemma isLetter_of_isLower_small (h : (small c).isLower = true) : c.isLetter = true := by
  unfold small at h
  split at h
  · next hc => simp [isLetter, hc]
  · simp [isLetter, h]

/-- The names of the infinity and of not-a-number are made of letters. -/
lemma isLetter_of_name (h : t.map small = "inf" ∨ t.map small = "infinity" ∨ t.map small = "nan") :
    ∀ c ∈ t, c.isLetter = true := by
  intro c hc
  have hmem := List.mem_map_of_mem (f := small) hc
  have hlower : (("inf" : Text) ++ "infinity" ++ "nan").all isLower = true := by decide
  refine isLetter_of_isLower_small (List.all_eq_true.mp hlower _ ?_)
  rcases h with h | h | h <;> rw [h] at hmem
  · exact List.mem_append_left _ (List.mem_append_left _ hmem)
  · exact List.mem_append_left _ (List.mem_append_right _ hmem)
  · exact List.mem_append_right _ hmem

lemma named?_eq_some_iff {x : Binary64} :
    named? negative u = some x ↔
      (u.map small = "inf" ∨ u.map small = "infinity") ∧ x = .infinite negative ∨
        u.map small = "nan" ∧ x = .nan := by
  change (if u.map small = "inf" || u.map small = "infinity" then some (Binary64.infinite negative)
    else if u.map small = "nan" then some Binary64.nan else none) = _ ↔ _
  generalize u.map small = w
  by_cases hinf : w = "inf" ∨ w = "infinity"
  · have hnan : w ≠ "nan" := by rcases hinf with rfl | rfl <;> decide
    rw [if_pos (by simpa using hinf), Option.some.injEq, eq_comm]
    exact ⟨fun hx => Or.inl ⟨hinf, hx⟩, by rintro (⟨-, hx⟩ | ⟨hw, -⟩); exacts [hx, absurd hw hnan]⟩
  · rw [if_neg (by simpa using hinf)]
    by_cases hnan : w = "nan"
    · rw [if_pos hnan, Option.some.injEq, eq_comm]
      exact ⟨fun hx => Or.inr ⟨hnan, hx⟩, by rintro (⟨hw, -⟩ | ⟨-, hx⟩); exacts [absurd hw hinf, hx]⟩
    · rw [if_neg hnan]
      exact iff_of_false nofun (by rintro (⟨hw, -⟩ | ⟨hw, -⟩); exacts [hinf hw, hnan hw])

lemma map_plain_letters (h : ∀ c ∈ t, c.isLetter = true) : t.map plain = t := by
  have hplain : ∀ c ∈ t, plain c = c := fun c hc =>
    plain_of_not_isDecimal (not_isDecimal_of_isLetter (h c hc))
  rw [List.map_congr_left hplain, List.map_id']

lemma dropLowLines_letters (h : ∀ c ∈ t, c.isLetter = true) (b : Bool) :
    dropLowLines b t = some t := by
  induction t generalizing b with
  | nil => rfl
  | cons c t ih =>
    obtain ⟨hc, ht⟩ := List.forall_mem_cons.mp h
    have hline : c ≠ CodePoint.ofChar '_' := by rintro rfl; exact absurd hc (by decide)
    rw [dropLowLines_cons hline, ih ht, Option.map_some]

lemma eq_of_dropLowLines_letters (hu : ∀ c ∈ u, c.isLetter = true)
    (h : dropLowLines false (t.map plain) = some u) : t = u := by
  induction u generalizing t with
  | nil => exact eq_nil_of_dropLowLines h
  | cons d u ih =>
    obtain ⟨hd, hletters⟩ := List.forall_mem_cons.mp hu
    have hline : d ≠ CodePoint.ofChar '_' := by rintro rfl; exact absurd hd (by decide)
    obtain ⟨c, t, rfl, hc, hrest⟩ := exists_of_dropLowLines_cons hline h
    have hdecimal := not_isDecimal_of_isLetter hd
    have hdigit : d.isDigit = false :=
      Bool.eq_false_iff.mpr fun hdigit => by simp [isDecimal_of_isDigit hdigit] at hdecimal
    rw [plain_eq_iff hdecimal] at hc
    rw [hdigit] at hrest
    rw [hc, ih hletters hrest]

/-- What begins as a decimal has no name and no sign. -/
lemma Begins.named?_eq (h : Begins u) : named? negative u = none := by
  obtain ⟨d, hd, hdigit⟩ := h
  rw [Option.eq_none_iff_forall_ne_some]
  intro x hx
  have hname : u.map small = "inf" ∨ u.map small = "infinity" ∨ u.map small = "nan" := by
    rcases named?_eq_some_iff.mp hx with ⟨h | h, -⟩ | ⟨h, -⟩
    exacts [Or.inl h, Or.inr (Or.inl h), Or.inr (Or.inr h)]
  have hletter := isLetter_of_name hname d (List.mem_of_mem_head? hd)
  rcases hdigit with hdigit | rfl
  · simpa [isDecimal_of_isDigit hdigit] using not_isDecimal_of_isLetter hletter
  · exact absurd hletter (by decide)

lemma Begins.not_sign (h : Begins u) :
    ∀ c ∈ u.head?, c ≠ CodePoint.ofChar '-' ∧ c ≠ CodePoint.ofChar '+' := by
  obtain ⟨d, hd, hdigit⟩ := h
  intro c hc
  rw [hd] at hc
  cases hc
  rcases hdigit with hdigit | rfl
  · constructor <;> (rintro rfl; exact absurd hdigit (by decide))
  · decide

lemma Sign.read_letters {s n : Text} (hs : Sign s negative) (hn : ∀ c ∈ n, c.isLetter = true) :
    dropLowLines false ((s ++ n).map plain) = some (s ++ n) ∧ sign (s ++ n) = (negative, n) := by
  rw [List.map_append, hs.map_plain, map_plain_letters hn, hs.dropLowLines_eq,
    dropLowLines_letters hn]
  refine ⟨rfl, hs.sign_eq fun c hc => ?_⟩
  have hletter := hn c (List.mem_of_mem_head? hc)
  constructor <;> (rintro rfl; exact absurd hletter (by decide))

/-! ### Numbers -/

lemma ofText?_eq (ht : Text.IsTrimmed isBlank t) :
    Binary64.ofText? t = (dropLowLines false (t.map plain)).bind fun u =>
      (named? (sign u).1 (sign u).2).orElse fun _ => decimal? (sign u).1 (sign u).2 := by
  rw [← normalize_eq ht]
  rfl

lemma Denotes.ofText?_eq_some {x : Binary64} (h : Denotes t x)
    (ht : Text.IsTrimmed isBlank t) : Binary64.ofText? t = some x := by
  rw [ofText?_eq ht]
  cases h with
  | infinity hs hn =>
    obtain ⟨hdrop, hsign⟩ := hs.read_letters (isLetter_of_name (or_assoc.mp (Or.inl hn)))
    rw [hdrop, Option.bind_some, hsign, named?_eq_some_iff.mpr (Or.inl ⟨hn, rfl⟩)]
    rfl
  | nan hs hn =>
    obtain ⟨hdrop, hsign⟩ := hs.read_letters (isLetter_of_name (Or.inr (Or.inr hn)))
    rw [hdrop, Option.bind_some, hsign, named?_eq_some_iff.mpr (Or.inr ⟨hn, rfl⟩)]
    rfl
  | decimal hs hm he =>
    obtain ⟨u, hu, hbegins, hdecimal⟩ := hm.exists_read he
    rw [List.map_append, hs.map_plain, hs.dropLowLines_eq, hu, Option.map_some, Option.bind_some,
      hs.sign_eq hbegins.not_sign, hbegins.named?_eq, hdecimal]
    rfl

lemma denotes_of_ofText? {x : Binary64} (ht : Text.IsTrimmed isBlank t)
    (h : Binary64.ofText? t = some x) : Denotes t x := by
  rw [ofText?_eq ht] at h
  obtain ⟨u, hu, hx⟩ := Option.bind_eq_some_iff.mp h
  obtain ⟨s, t, rfl, hs, hrest⟩ := exists_sign hu
  cases hnamed : named? (sign u).1 (sign u).2 with
  | some y =>
    obtain rfl : y = x := by simpa [hnamed] using hx
    obtain ⟨hn, rfl⟩ | ⟨hn, rfl⟩ := named?_eq_some_iff.mp hnamed
    · rw [eq_of_dropLowLines_letters (isLetter_of_name (or_assoc.mp (Or.inl hn))) hrest]
      exact .infinity hs hn
    · rw [eq_of_dropLowLines_letters (isLetter_of_name (Or.inr (Or.inr hn))) hrest]
      exact .nan hs hn
  | none =>
    have hdecimal : decimal? (sign u).1 (sign u).2 = some x := by simpa [hnamed] using hx
    obtain ⟨m, e, ds, places, exponent, rfl, hm, he, rfl⟩ := mantissa_of_read hrest hdecimal
    exact .decimal hs hm he

end Literal

/-- The reader takes the texts of the grammar, for the numbers that they denote. -/
theorem Binary64.ofText?_eq_some_iff {t : Text} {x : Binary64}
    (ht : Text.IsTrimmed CodePoint.isBlank t) : ofText? t = some x ↔ Literal.Denotes t x :=
  ⟨Literal.denotes_of_ofText? ht, fun h => h.ofText?_eq_some ht⟩

end Settle

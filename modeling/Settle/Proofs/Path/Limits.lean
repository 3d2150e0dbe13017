import Settle.Match
import Settle.Proofs.Path.Reading

/-!
# Numbers that no path can hold

Two numbers in the text of a path have limits: an index has 4300 digits at most, and the number of
an escape fits in a signed 32-bit word. A text that goes beyond one of them, behind segments that
are well formed, is neither read as a path nor reported as faulty.
-/

namespace Settle

/-- A number is outside the limits, which is no fault that is reported of a text. -/
def PathError.IsOutside : PathError → Prop
  | .fault _                     => False
  | .longIndex _ | .hugeCodePoint => True

namespace Path

/-! ### Texts beyond the limits -/

/-- More digits than an index may have. -/
structure LongNumeral (ds : Text) : Prop where
  length : 4300 < ds.length
  digits : ∀ d ∈ ds, d.isDigit

/-- What would belong to a number in front of it: more digits, a fraction or an exponent. -/
inductive ContinuesNumber : Text → Prop where
  | digit {d : CodePoint} {t : Text} (digit : d.isDigit) : ContinuesNumber (d :: t)
  | fraction {t : Text} : ContinuesNumber ('.' :: t)
  | exponent {e d : CodePoint} {t : Text} (letter : e = 'e' ∨ e = 'E') (digit : d.isDigit) :
      ContinuesNumber (e :: d :: t)
  | signed {e s d : CodePoint} {t : Text} (letter : e = 'e' ∨ e = 'E') (sign : s = '+' ∨ s = '-')
      (digit : d.isDigit) : ContinuesNumber (e :: s :: d :: t)

/-- A text begins as a key does, up to a long escape of a number that is too large. -/
inductive HugeKey : Text → Prop where
  | intro {s k ds r : Text} {n : Nat} (spells : Spells s k) (digits : HexNumeral 8 ds n)
      (huge : 0x7fffffff < n) : HugeKey (s ++ ("\\U" ++ (ds ++ r)))

/-- A text begins as a segment does, up to a number outside the limits. -/
inductive Oversized : Text → PathError → Prop where
  | dotted {ds r : Text} (digits : LongNumeral ds) (follows : Follows r) :
      Oversized ("." ++ (ds ++ r)) (.longIndex ds.length)
  | index {ds r : Text} (digits : LongNumeral ds) (ends : ¬ ContinuesNumber r) :
      Oversized ("[" ++ (ds ++ r)) (.longIndex ds.length)
  | key {t : Text} (h : HugeKey t) : Oversized ("[\"" ++ t) .hugeCodePoint

/-! ### Numbers -/

/-- What follows a sign, if one is at the front. -/
def skipSign : Text → Text
  | []     => []
  | s :: t => if s = '+' || s = '-' then t else s :: t

lemma skipExponent_cons (c : CodePoint) (t : Text) :
    skipExponent (c :: t) = if c = 'e' || c = 'E' then
      if (digits (skipSign t)).1.isEmpty then c :: t else (digits (skipSign t)).2
    else c :: t := by
  cases t <;> rfl

lemma length_skipSign_le (t : Text) : (skipSign t).length ≤ t.length := by
  cases t with
  | nil => exact Nat.le_refl 0
  | cons s t =>
    rw [skipSign]
    split
    · exact Nat.le_succ t.length
    · exact Nat.le_refl _

lemma length_skipExponent_le (t : Text) : (skipExponent t).length ≤ t.length := by
  cases t with
  | nil => exact Nat.le_refl 0
  | cons c t =>
    have hdigits := digits_length (skipSign t)
    have hsign := length_skipSign_le t
    rw [skipExponent_cons]
    split
    · split
      · exact Nat.le_refl _
      · rw [List.length_cons]
        omega
    · exact Nat.le_refl _

lemma skipSign_of_isDigit {d : CodePoint} (hd : d.isDigit = true) (t : Text) :
    skipSign (d :: t) = d :: t := by
  refine if_neg fun hsign => ?_
  obtain rfl | rfl : d = CodePoint.ofChar '+' ∨ d = CodePoint.ofChar '-' := by simpa using hsign
  all_goals exact absurd hd (by decide)

/-- The digits of an exponent stand behind its letter, or behind a sign. -/
lemma digits_skipSign_ne_nil_iff {e : CodePoint} {t : Text} (he : e = 'e' ∨ e = 'E') :
    (digits (skipSign t)).1 ≠ [] ↔ ContinuesNumber (e :: t) := by
  constructor
  · intro h
    cases t with
    | nil => exact absurd rfl h
    | cons s t =>
      by_cases hsign : s = '+' ∨ s = '-'
      · have hskip : skipSign (s :: t) = t := if_pos (by simpa using hsign)
        rw [hskip] at h
        cases t with
        | nil => exact absurd rfl h
        | cons d t => exact .signed he hsign (not_not.mp (mt digits_cons_eq_nil_iff.mpr h))
      · have hskip : skipSign (s :: t) = s :: t := if_neg (by simpa using hsign)
        rw [hskip] at h
        exact .exponent he (not_not.mp (mt digits_cons_eq_nil_iff.mpr h))
  · intro h
    cases h with
    | digit digit =>
      rcases he with rfl | rfl <;> exact absurd digit (by decide)
    | fraction => rcases he with he | he <;> exact absurd he (by decide)
    | exponent _ digit =>
      rw [skipSign_of_isDigit digit]
      exact mt digits_cons_eq_nil_iff.mp (not_not_intro digit)
    | @signed _ s d t _ sign digit =>
      have hskip : skipSign (s :: d :: t) = d :: t := if_pos (by simpa using sign)
      rw [hskip]
      exact mt digits_cons_eq_nil_iff.mp (not_not_intro digit)

lemma skipExponent_eq_iff {c : CodePoint} {t : Text} (hc : c = 'e' ∨ c = 'E') :
    skipExponent (c :: t) = c :: t ↔ ¬ ContinuesNumber (c :: t) := by
  have hsign := length_skipSign_le t
  have hrest := digits_length (skipSign t)
  rw [skipExponent_cons, if_pos (by simpa using hc), ← digits_skipSign_ne_nil_iff hc, not_not,
    ← List.isEmpty_iff]
  constructor
  · intro heq
    by_contra hdigits
    rw [if_neg hdigits] at heq
    rw [heq, List.length_cons] at hrest
    omega
  · intro hdigits
    exact if_pos hdigits

/-- What ends a number is no digit, and neither a fraction nor an exponent. -/
lemma ends_iff {r : Text} :
    (∀ c ∈ r.head?, ¬ c.isDigit) ∧ skipExponent (skipFraction r) = r ↔ ¬ ContinuesNumber r := by
  cases r with
  | nil => exact ⟨fun _ => nofun, fun _ => ⟨nofun, rfl⟩⟩
  | cons c t =>
    have hhead : ¬ ContinuesNumber (c :: t) → ∀ d ∈ (c :: t).head?, ¬ d.isDigit := by
      rintro h d ⟨rfl⟩ hd
      exact h (.digit hd)
    by_cases hfraction : c = CodePoint.ofChar '.'
    · subst hfraction
      refine iff_of_false (fun h => ?_) (not_not_intro .fraction)
      have hskip := length_skipExponent_le (t.dropWhile CodePoint.isDigit)
      have hdrop := dropWhile_length_le CodePoint.isDigit t
      have heq := congrArg List.length h.2
      rw [skipFraction, if_pos rfl, List.length_cons] at heq
      omega
    rw [skipFraction, if_neg hfraction]
    by_cases hletter : c = 'e' ∨ c = 'E'
    · rw [skipExponent_eq_iff hletter]
      exact ⟨And.right, fun h => ⟨hhead h, h⟩⟩
    · rw [skipExponent_cons, if_neg (by simpa using hletter)]
      refine ⟨fun h hcontinues => ?_, fun h => ⟨hhead h, rfl⟩⟩
      cases hcontinues with
      | digit digit => exact h.1 c rfl digit
      | fraction => exact hfraction rfl
      | exponent letter | signed letter => exact hletter letter

/-! ### Indices -/

namespace LongNumeral

variable {ds r : Text} (h : LongNumeral ds)
include h

lemma nonempty : ds ≠ [] := by
  rintro rfl
  exact absurd h.length (by simp)

lemma place_eq : place ds = .error (.longIndex ds.length) :=
  place_eq_error_iff.mpr ⟨h.length, rfl⟩

lemma dotted_eq (follows : Follows r) (total : Nat) :
    dotted total (ds ++ r) = .error (.longIndex ds.length) := by
  rw [dotted_row h.nonempty h.digits follows, h.place_eq]
  rfl

lemma bracketed_eq (ends : ¬ ContinuesNumber r) (total : Nat) :
    bracketed total (ds ++ r) = .error (.longIndex ds.length) := by
  obtain ⟨stop, hrest⟩ := ends_iff.mpr ends
  rw [bracketed_row h.nonempty h.digits, indexNumber_row h.nonempty h.digits stop hrest, h.place_eq]
  rfl

end LongNumeral

lemma longNumeral_of_place {ds : Text} {e : PathError} (hdigits : ∀ d ∈ ds, d.isDigit)
    (h : place ds = .error e) : LongNumeral ds ∧ e = .longIndex ds.length := by
  obtain ⟨hlength, rfl⟩ := place_eq_error_iff.mp h
  exact ⟨⟨hlength, hdigits⟩, rfl⟩

lemma oversized_of_dotted {total : Nat} {t : Text} {e : PathError} (he : e.IsOutside)
    (h : dotted total t = .error e) : Oversized ("." ++ t) e := by
  simp only [dotted] at h
  split at h
  · cases h
    exact he.elim
  split at h
  · split at h
    · cases h
    · cases h
      exact he.elim
  split at h
  · next hfollows =>
    obtain ⟨hlong, rfl⟩ := longNumeral_of_place (fun _ => isDigit_of_mem_digits)
      (map_eq_error_iff.mp h)
    rw [Option.all_eq_true] at hfollows
    have hends : Follows (digits t).2 := fun c hc => by simpa using hfollows c hc
    have hoversized := Oversized.dotted hlong hends
    rwa [digits_append] at hoversized
  · cases h
    exact he.elim

lemma oversized_of_indexNumber {total : Nat} {t : Text} {e : PathError} (he : e.IsOutside)
    (h : indexNumber total t = .error e) : Oversized ("[" ++ t) e := by
  simp only [indexNumber] at h
  split at h
  · cases h
    exact he.elim
  split at h
  · cases h
    exact he.elim
  next hplain =>
  obtain ⟨hminus, hrest⟩ := not_or.mp hplain
  rw [skipMinus_of_head hminus] at h hrest
  obtain ⟨hlong, rfl⟩ := longNumeral_of_place (fun _ => isDigit_of_mem_digits)
    (map_eq_error_iff.mp h)
  have hoversized := Oversized.index hlong
    (ends_iff.mp ⟨fun _ => not_isDigit_of_mem_head?, not_not.mp hrest⟩)
  rwa [digits_append] at hoversized

/-! ### Keys -/

lemma HexNumeral.lt {width n : Nat} {ds : Text} (h : HexNumeral width ds n) : n < 16 ^ width := by
  have hdigits : ∀ d ∈ ds, d.hexValue < 16 := fun d _ => d.hexValue_lt
  have hlt := Text.number_lt 16 CodePoint.hexValue (by decide) hdigits
  rwa [h.value, h.length] at hlt

/-- A number that is too large is read from eight digits, since four digits and surrogate pairs
stand for smaller ones. -/
lemma Reads.digits_of_huge {letter : CodePoint} {t r : Text} {n : Nat} (h : Reads letter t n r)
    (huge : 0x7fffffff < n) : letter ≠ 'u' ∧ ∃ ds, HexNumeral 8 ds n ∧ t = ds ++ r := by
  cases h with
  | @alone ds r n digits text =>
    have hletter : letter ≠ CodePoint.ofChar 'u' := by
      rintro rfl
      have hlt : n < 16 ^ 4 := HexNumeral.lt digits
      omega
    rw [width, if_neg hletter] at digits
    exact ⟨hletter, ds, digits, text⟩
  | @pair ds ds' r high low digits digits' text high_mem low_mem =>
    have hlt : combine high low < 0x110000 := by
      unfold combine
      omega
    omega

/-- A number that is too large is no high surrogate. -/
lemma HexNumeral.escape_eq {ds : Text} {n : Nat} (h : HexNumeral 8 ds n) (huge : 0x7fffffff < n)
    (r : Text) : escape 'U' (ds ++ r) = .error .hugeCodePoint := by
  have hreads : escapedNumber 'U' (ds ++ r) = .ok (n, r) :=
    escapedNumber_eq_ok_iff.mpr (.alone h rfl fun hhigh => by omega)
  have hnone : CodePoint.ofNat? n = none := dif_neg (by omega)
  have hletter : shortEscape? 'U' = none := by decide
  simp only [escape, hletter, hreads, hnone, ok_bind]
  rw [if_pos (by simp), if_pos huge]

lemma huge_of_escape {l : CodePoint} {t : Text} {e : PathError} (he : e.IsOutside)
    (h : escape l t = .error e) : e = .hugeCodePoint ∧ l = 'U' ∧
      ∃ ds r n, HexNumeral 8 ds n ∧ 0x7fffffff < n ∧ t = ds ++ r := by
  unfold escape at h
  split at h
  · cases h
  split at h
  · next hletter =>
    obtain hnumber | ⟨⟨n, r⟩, hnumber, hrest⟩ := bind_eq_error_iff.mp h
    · obtain ⟨f, rfl, -⟩ := exists_fault_of_escapedNumber hnumber
      exact he.elim
    · simp only at hrest
      split at hrest
      · cases hrest
      split at hrest
      · next huge =>
        cases hrest
        obtain ⟨hu, ds, hds, rfl⟩ := (escapedNumber_eq_ok_iff.mp hnumber).digits_of_huge huge
        refine ⟨rfl, ?_, ds, r, n, hds, huge, rfl⟩
        simpa [hu] using hletter
      · cases hrest
        exact he.elim
  · cases h
    exact he.elim

lemma quotedKey_of_escape {l : CodePoint} {t : Text} {e : PathError} (h : escape l t = .error e) :
    quotedKey ("\\" ++ l :: t) = .error e := by
  have hcons : ("\\" ++ l :: t : Text) = CodePoint.ofChar '\\' :: l :: t := rfl
  rw [hcons, quotedKey.eq_def]
  simp only [CodePoint.ofChar_inj, Char.reduceEq, if_false, if_true]
  split
  · next e' he =>
    rw [h] at he
    cases he
    rfl
  · next hd =>
    rw [h] at hd
    cases hd

lemma HugeKey.quotedKey_eq {t : Text} (h : HugeKey t) :
    quotedKey t = .error .hugeCodePoint := by
  cases h with
  | @intro s k ds r n spells digits huge =>
    have hlong : quotedKey ("\\U" ++ (ds ++ r)) = .error .hugeCodePoint :=
      quotedKey_of_escape (digits.escape_eq huge r)
    have hcons : ("\\U" ++ (ds ++ r) : Text)
      = CodePoint.ofChar '\\' :: CodePoint.ofChar 'U' :: (ds ++ r) := rfl
    have hapart : ∀ {u : Text}, ("\\u" : Text) <+: u ++ ("\\U" ++ (ds ++ r)) →
        ("\\u" : Text) <+: u := by
      rw [hcons]
      refine (isPrefix_short_append_cons_iff (by decide) ?_).mp
      rw [isPrefix_short_iff]
      decide
    rw [spells.quotedKey_append hapart, hlong]
    rfl

/-- What stops the reader of a key is the number of a long escape. -/
lemma hugeKey_of_quotedKey {t : Text} {e : PathError} (he : e.IsOutside)
    (h : quotedKey t = .error e) : e = .hugeCodePoint ∧ HugeKey t := by
  fun_induction quotedKey t with
  | case1 =>
    cases h
    exact he.elim
  | case2 => cases h
  | case3 =>
    cases h
    exact he.elim
  | case4 l t e' hescape =>
    cases h
    obtain ⟨rfl, rfl, ds, r, n, hds, huge, rfl⟩ := huge_of_escape he hescape
    exact ⟨rfl, .intro .nil hds huge⟩
  | case5 l t d r hescape _ ih =>
    obtain ⟨rfl, hhuge⟩ := ih (map_eq_error_iff.mp h)
    refine ⟨rfl, ?_⟩
    obtain ⟨e, he, hread⟩ := escape_eq_ok_iff.mp hescape
    cases hhuge with
    | @intro s k ds r n spells digits huge =>
      -- The escape was read in front of the whole rest, of which the spelled part is the beginning.
      have hspells := Spells.escape (hread.congr fun h => h.trans (List.prefix_append _ _)) spells
      have hkey := HugeKey.intro (r := r) hspells digits huge
      rwa [List.append_assoc, ← he] at hkey
  | case6 c t mark backslash ih =>
    obtain ⟨rfl, hhuge⟩ := ih (map_eq_error_iff.mp h)
    cases hhuge with
    | intro spells digits huge => exact ⟨rfl, .intro (.plain mark backslash spells) digits huge⟩

/-! ### Segments -/

lemma HugeKey.bracketed_eq {t : Text} (h : HugeKey t) (total : Nat) :
    bracketed total ("\"" ++ t) = .error .hugeCodePoint := by
  have hmark : ("\"" ++ t : Text) = CodePoint.ofChar '"' :: t := rfl
  rw [hmark, bracketed, if_neg (by simp), if_pos rfl, h.quotedKey_eq]
  rfl

lemma oversized_of_bracketed {total : Nat} {t : Text} {e : PathError} (he : e.IsOutside)
    (h : bracketed total t = .error e) : Oversized ("[" ++ t) e := by
  cases t with
  | nil =>
    cases h
    exact he.elim
  | cons c t =>
    rw [bracketed] at h
    split at h
    · cases h
      exact he.elim
    split at h
    · next hmark =>
      subst hmark
      obtain ⟨rfl, hkey⟩ := hugeKey_of_quotedKey he (map_eq_error_iff.mp h)
      exact .key hkey
    · exact oversized_of_indexNumber he (map_eq_error_iff.mp h)

lemma segment_bracket_error {total : Nat} {t : Text} {e : PathError}
    (h : bracketed total t = .error e) : segment total ("[" ++ t) = .error e := by
  have hopen : ("[" ++ t : Text) = CodePoint.ofChar '[' :: t := rfl
  rw [hopen, segment, if_neg (by simp), if_pos rfl, h]
  rfl

/-- A segment with a number outside the limits stops the reader. -/
lemma Oversized.segment_eq {t : Text} {e : PathError} (h : Oversized t e) (total : Nat) :
    segment total t = .error e := by
  cases h with
  | dotted digits follows => rw [segment_dot, digits.dotted_eq follows]
  | index digits ends => exact segment_bracket_error (digits.bracketed_eq ends total)
  | key h => exact segment_bracket_error (h.bracketed_eq total)

/-- What stops the reader of a segment, and is no fault, is a number outside the limits. -/
lemma oversized_of_segment {total : Nat} {t : Text} {e : PathError} (he : e.IsOutside)
    (h : segment total t = .error e) : Oversized t e := by
  cases t with
  | nil =>
    cases h
    exact he.elim
  | cons c t =>
    by_cases hdot : c = CodePoint.ofChar '.'
    · subst hdot
      exact oversized_of_dotted he ((segment_dot total t).symm.trans h)
    by_cases hopen : c = CodePoint.ofChar '['
    · subst hopen
      obtain hbracketed | ⟨s, r, -, -, rfl⟩ := bracket_error_cases h
      · exact oversized_of_bracketed he hbracketed
      · exact he.elim
    · rw [segment, if_neg hdot, if_neg hopen] at h
      cases h
      exact he.elim

/-! ### Paths -/

lemma Oversized.nonempty {t : Text} {e : PathError} (h : Oversized t e) : t ≠ [] := by
  cases h <;> exact List.cons_ne_nil _ _

lemma Oversized.follows {t : Text} {e : PathError} (h : Oversized t e) : Follows t := by
  cases h with
  | dotted => rintro c ⟨rfl⟩; exact Or.inl rfl
  | index | key => rintro c ⟨rfl⟩; exact Or.inr rfl

section Segments

variable {l : List (Text × Step)} {u : Text} (denote : ∀ s ∈ l, Denotes s.1 s.2)
  (follows : Follows u)

include denote follows

lemma follows_segments_append : Follows (l.flatMap Prod.fst ++ u) := by
  cases l with
  | nil => exact follows
  | cons s l =>
    rw [List.flatMap_cons, List.append_assoc]
    exact (denote s List.mem_cons_self).follows _

/-- Segments are read in front of whatever may follow one. -/
lemma segments_append (total : Nat) : segments total (l.flatMap Prod.fst ++ u) =
    (segments total u).map (l.map Prod.snd ++ ·) := by
  induction l with
  | nil => cases h : segments total u <;> simp [h, Except.map]
  | cons s l ih =>
    obtain ⟨hs, hl⟩ := List.forall_mem_cons.mp denote
    have hsegment := hs.segment_eq (follows_segments_append hl follows) total
    rw [List.flatMap_cons, List.append_assoc, segments_of_segment hsegment, ih hl]
    cases segments total u <;> rfl

end Segments

/-- A text is a path up to a segment with a number outside the limits. -/
inductive Overruns : Text → PathError → Prop where
  | intro {u : Text} {e : PathError} (f : Form) (oversized : Oversized u e) :
      Overruns (f.text ++ u) e

lemma Overruns.isOutside {t : Text} {e : PathError} (h : Overruns t e) : e.IsOutside := by
  obtain ⟨f, h⟩ := h
  cases h <;> trivial

lemma Overruns.parse_eq {t : Text} {e : PathError} (h : Overruns t e) : parse t = .error e := by
  obtain ⟨f, hu⟩ := h
  have hfollows := follows_segments_append f.denote hu.follows
  rw [Form.text, List.append_assoc, f.isName.parse_eq hfollows,
    segments_append f.denote hu.follows, segments_of_segment_error hu.nonempty (hu.segment_eq _)]
  rfl

lemma overruns_of_parse {t : Text} {e : PathError} (he : e.IsOutside) (h : parse t = .error e) :
    Overruns t e := by
  rw [parse] at h
  split at h
  · cases h
    exact he.elim
  split at h
  · cases h
    exact he.elim
  split at h
  · cases h
    exact he.elim
  · next n r hname =>
    obtain ⟨hn, rfl⟩ := isName_of_name? hname
    obtain ⟨l, u, hl, rfl, hu, -⟩ := exists_of_segments_error (map_eq_error_iff.mp h)
    have hoverruns := Overruns.intro ⟨n, l, hn, hl⟩ (oversized_of_segment he hu)
    rwa [Form.text, List.append_assoc] at hoverruns

lemma overruns_iff {t : Text} {e : PathError} :
    Overruns t e ↔ e.IsOutside ∧ parse t = .error e :=
  ⟨fun h => ⟨h.isOutside, h.parse_eq⟩, fun h => overruns_of_parse h.1 h.2⟩

lemma tooLongToRead_inj {m n : Nat} :
    Decimal.tooLongToRead m = Decimal.tooLongToRead n ↔ m = n := by
  refine ⟨fun h => ?_, congrArg _⟩
  exact Decimal.ofNat_injective (List.append_cancel_left (List.append_cancel_right h))

/-- A text is read as a path or reported with a fault, exactly if no number in it is outside the
limits behind segments that are well formed. A number that is stops the reader with a failure of
another kind. -/
theorem read_or_reported_iff_within_limits (t : Text) :
    (((∃ p, ofText t = .ok p) ∨ ∃ fault, ofText t = .error (.badPath t fault)) ↔
      ¬ ∃ e, Overruns t e) ∧
      (∀ n, ofText t = .error (.invalid (Decimal.tooLongToRead n)) ↔ Overruns t (.longIndex n)) ∧
      (ofText t = .error .overflow ↔ Overruns t .hugeCodePoint) := by
  simp only [ofText, overruns_iff]
  cases parse t with
  | ok p => simp [Except.mapError]
  | error e =>
    cases e with
    | fault f => simp [Except.mapError, Failure.ofPathError, PathError.IsOutside]
    | longIndex n =>
      simp [Except.mapError, Failure.ofPathError, PathError.IsOutside, tooLongToRead_inj]
    | hugeCodePoint => simp [Except.mapError, Failure.ofPathError, PathError.IsOutside]

/-- A path with an escape of the largest number that eight digits denote. -/
def hugePath : Text := "x[\"\\UFFFFFFFF\"]"

lemma ofText_hugePath : ofText hugePath = .error .overflow := by decide +kernel

theorem hugePath_stops :
    ¬ ∀ t, (∃ p, ofText t = .ok p) ∨ ∃ fault, ofText t = .error (.badPath t fault) := by
  intro h
  have hstops := ofText_hugePath
  obtain ⟨p, hp⟩ | ⟨fault, hp⟩ := h hugePath
  · rw [hp] at hstops
    cases hstops
  · rw [hp] at hstops
    cases hstops

end Path

end Settle

import Settle.Proofs.Path.Key
import Settle.Proofs.Text.Row

/-!
# Reading a path by its grammar

The reader takes exactly the texts that have a form in the grammar, and gives the path that the
form denotes. In front of the end, of a dot or of a bracket, each segment is read as far as it
reaches, so no text has two forms.
-/

namespace Settle

namespace Path

/-- A segment may end here: at the end of the text, or in front of the next segment. -/
def Follows (r : Text) : Prop := ∀ c ∈ r.head?, c = CodePoint.ofChar '.' ∨ c = CodePoint.ofChar '['

lemma Follows.not_continuesName {r : Text} (h : Follows r) : ∀ c ∈ r.head?, ¬ continuesName c := by
  intro c hc
  rcases h c hc with rfl | rfl <;> decide

lemma Follows.not_isDigit {r : Text} (h : Follows r) : ∀ c ∈ r.head?, ¬ c.isDigit := by
  intro c hc
  rcases h c hc with rfl | rfl <;> decide

/-! ### Names -/

/-- A name does not begin with a digit. -/
lemma not_isDigit_of_begins {c : CodePoint} (h : c.isLetter ∨ c = '_') : ¬ c.isDigit := by
  intro hc
  rcases h with hletter | rfl
  · rw [Decimal.isDigit_iff] at hc
    simp [CodePoint.isLetter, CodePoint.isUpper, CodePoint.isLower, CodePoint.between] at hletter
    omega
  · exact absurd hc (by decide)

lemma IsName.name?_eq {n r : Text} (h : IsName n) (stop : ∀ c ∈ r.head?, ¬ continuesName c) :
    name? (n ++ r) = some (n, r) := by
  cases h with
  | @intro c t first rest =>
    have hrow : ∀ d ∈ t, continuesName d := by
      intro d hd
      simpa [continuesName, or_assoc] using rest d hd
    rw [List.cons_append, name?, if_pos (by simpa [beginsName] using first),
      Text.takeWhile_row hrow stop, Text.dropWhile_row hrow stop]

lemma IsName.head {n : Text} (h : IsName n) :
    ∃ (c : CodePoint) (t : Text), n = c :: t ∧ beginsName c := by
  cases h with
  | intro first rest => exact ⟨_, _, rfl, by simpa [beginsName] using first⟩

lemma isName_of_name? {t n r : Text} (h : name? t = some (n, r)) : IsName n ∧ t = n ++ r := by
  cases t with
  | nil => cases h
  | cons c t =>
    rw [name?] at h
    split at h
    · next first =>
      obtain ⟨rfl, rfl⟩ := Prod.mk.inj (Option.some.inj h)
      refine ⟨⟨by simpa [beginsName] using first, ?_⟩, by simp⟩
      intro d hd
      simpa [continuesName, or_assoc] using List.mem_takeWhile_imp hd
    · cases h

/-- A name is read as far as it goes. -/
lemma not_continuesName_of_name? {t n r : Text} (h : name? t = some (n, r)) :
    ∀ c ∈ r.head?, ¬ continuesName c := by
  cases t with
  | nil => cases h
  | cons c t =>
    rw [name?] at h
    split at h
    · obtain ⟨-, rfl⟩ := Prod.mk.inj (Option.some.inj h)
      exact fun d => Text.not_of_mem_head?_dropWhile
    · cases h

/-! ### Numbers -/

lemma place_eq_ok_iff {ds : Text} {n : Nat} :
    place ds = .ok n ↔ ds.length ≤ 4300 ∧ Text.number 10 Decimal.digitValue ds = n := by
  rw [place, Decimal.value_eq_number]
  split
  · next h =>
    simp only [Decimal.digitLimit] at h
    simp only [reduceCtorEq, false_iff, not_and]
    omega
  · next h =>
    simp only [Decimal.digitLimit] at h
    simp only [Except.ok.injEq]
    omega

lemma place_eq_error_iff {ds : Text} {e : PathError} :
    place ds = .error e ↔ 4300 < ds.length ∧ e = .longIndex ds.length := by
  rw [place]
  split
  · next h => simp [show 4300 < ds.length from h, eq_comm]
  · next h => simp [show ¬ 4300 < ds.length from h]

lemma numeral_iff {ds : Text} {n : Nat} :
    Numeral ds n ↔ ds ≠ [] ∧ (∀ d ∈ ds, d.isDigit) ∧ place ds = .ok n := by
  rw [place_eq_ok_iff]
  constructor
  · rintro ⟨hne, hlen, hdigits, hval⟩
    exact ⟨hne, hdigits, hlen, hval⟩
  · rintro ⟨hne, hdigits, hlen, hval⟩
    exact ⟨hne, hlen, hdigits, hval⟩

lemma digits_row {ds r : Text} (row : ∀ d ∈ ds, d.isDigit) (stop : ∀ c ∈ r.head?, ¬ c.isDigit) :
    digits (ds ++ r) = (ds, r) := by
  rw [digits, Text.takeWhile_row row stop, Text.dropWhile_row row stop]

lemma digits_append (t : Text) : (digits t).1 ++ (digits t).2 = t := List.takeWhile_append_dropWhile

lemma isDigit_of_mem_digits {t : Text} {d : CodePoint} (h : d ∈ (digits t).1) : d.isDigit :=
  List.mem_takeWhile_imp h

lemma digits_cons_eq_nil_iff {d : CodePoint} {t : Text} :
    (digits (d :: t)).1 = [] ↔ ¬ d.isDigit := by
  by_cases hd : d.isDigit = true <;> simp [digits, hd]

lemma not_isDigit_of_mem_head? {t : Text} {c : CodePoint} (h : c ∈ (digits t).2.head?) :
    ¬ c.isDigit := Text.not_of_mem_head?_dropWhile h

lemma skipMinus_of_head {t : Text} (h : t.head? ≠ some (CodePoint.ofChar '-')) :
    skipMinus t = t := by
  cases t with
  | nil => rfl
  | cons c t => exact if_neg (by simpa using h)

lemma Numeral.head {ds : Text} {n : Nat} (h : Numeral ds n) :
    ∃ (d : CodePoint) (t : Text), ds = d :: t ∧ d.isDigit := by
  obtain ⟨d, t, rfl⟩ := List.exists_cons_of_ne_nil h.nonempty
  exact ⟨d, t, rfl, h.digits d List.mem_cons_self⟩

/-- A row of digits in a bracket is an index, if no more of a number stands behind it. -/
lemma indexNumber_row {ds r : Text} (hne : ds ≠ []) (hdigits : ∀ d ∈ ds, d.isDigit)
    (stop : ∀ c ∈ r.head?, ¬ c.isDigit) (hrest : skipExponent (skipFraction r) = r) (total : Nat) :
    indexNumber total (ds ++ r) = (place ds).map (·, r) := by
  obtain ⟨d, t, rfl⟩ := List.exists_cons_of_ne_nil hne
  have hminus : d ≠ CodePoint.ofChar '-' := by
    rintro rfl
    exact absurd (hdigits _ List.mem_cons_self) (by decide)
  have hskip : skipMinus (d :: t ++ r) = d :: t ++ r := skipMinus_of_head (by simpa using hminus)
  simp only [indexNumber, hskip, digits_row hdigits stop, hrest, List.isEmpty_cons]
  rw [if_neg (by simp), if_neg (by simpa using hminus)]

lemma Numeral.indexNumber_eq {ds : Text} {n : Nat} (h : Numeral ds n) (total : Nat) (r : Text) :
    indexNumber total (ds ++ ("]" ++ r)) = .ok (n, "]" ++ r) := by
  have hbracket : ("]" ++ r : Text) = CodePoint.ofChar ']' :: r := rfl
  obtain ⟨hne, hdigits, hplace⟩ := numeral_iff.mp h
  have hstop : ∀ c ∈ ("]" ++ r : Text).head?, ¬ c.isDigit := by
    rintro c ⟨rfl⟩
    decide
  have hrest : skipExponent (skipFraction ("]" ++ r)) = "]" ++ r := by
    rw [hbracket, skipFraction, if_neg (by simp), skipExponent.eq_def]
    exact if_neg (by simp)
  rw [indexNumber_row hne hdigits hstop hrest, hplace]
  rfl

lemma numeral_of_indexNumber {total n : Nat} {t r : Text} (h : indexNumber total t = .ok (n, r)) :
    ∃ ds, t = ds ++ r ∧ Numeral ds n ∧ ∀ c ∈ r.head?, ¬ c.isDigit := by
  simp only [indexNumber] at h
  split at h
  · cases h
  next hne =>
  split at h
  · cases h
  next hplain =>
  obtain ⟨hminus, -⟩ := not_or.mp hplain
  rw [skipMinus_of_head hminus] at h hne
  obtain ⟨m, hplace, hm⟩ := map_eq_ok_iff.mp h
  cases hm
  refine ⟨(digits t).1, (digits_append t).symm, numeral_iff.mpr ⟨by simpa using hne, ?_, hplace⟩,
    fun c => not_isDigit_of_mem_head?⟩
  exact fun d => isDigit_of_mem_digits

/-! ### Segments -/

lemma IsName.dotted_eq {n r : Text} (h : IsName n) (stop : ∀ c ∈ r.head?, ¬ continuesName c)
    (total : Nat) : dotted total (n ++ r) = .ok (.field n, r) := by
  have hname := h.name?_eq stop
  cases h with
  | @intro c t first rest =>
    have hsplat : c ≠ CodePoint.ofChar '*' := by
      rintro rfl
      exact absurd first (by decide)
    have hrow : (digits (c :: t ++ r)).1 = [] :=
      List.takeWhile_cons_of_neg (not_isDigit_of_begins first)
    rw [dotted, if_neg (by simpa using hsplat)]
    simp only [hrow, List.isEmpty_nil, if_true, hname]

/-- A row of digits behind a dot is an index, if a segment may end behind it. -/
lemma dotted_row {ds r : Text} (hne : ds ≠ []) (hdigits : ∀ d ∈ ds, d.isDigit)
    (follows : Follows r) (total : Nat) :
    dotted total (ds ++ r) = (place ds).map fun n => (.index n, r) := by
  have hrow := digits_row hdigits follows.not_isDigit
  obtain ⟨d, t, rfl⟩ := List.exists_cons_of_ne_nil hne
  have hsplat : d ≠ CodePoint.ofChar '*' := by
    rintro rfl
    exact absurd (hdigits _ List.mem_cons_self) (by decide)
  have hfollows : r.head?.all (fun c : CodePoint => c = '.' || c = '[') = true := by
    rw [Option.all_eq_true]
    intro c hc
    simpa using follows c hc
  rw [dotted, if_neg (by simpa using hsplat)]
  simp only [hrow, List.isEmpty_cons, hfollows, if_true]
  rfl

lemma Numeral.dotted_eq {ds r : Text} {n : Nat} (h : Numeral ds n) (follows : Follows r)
    (total : Nat) : dotted total (ds ++ r) = .ok (.index n, r) := by
  obtain ⟨hne, hdigits, hplace⟩ := numeral_iff.mp h
  rw [dotted_row hne hdigits follows, hplace]
  rfl

/-- What is read behind a dot is a name as far as it goes, or digits in front of what may follow a
segment. -/
lemma dotted_cases {total : Nat} {t r : Text} {s : Step} (h : dotted total t = .ok (s, r)) :
    (∃ n, s = .field n ∧ name? t = some (n, r)) ∨
      ∃ ds n, s = .index n ∧ Numeral ds n ∧ t = ds ++ r ∧ Follows r := by
  simp only [dotted] at h
  split at h
  · cases h
  split at h
  · split at h
    · next n r' hname =>
      cases h
      exact Or.inl ⟨n, rfl, hname⟩
    · cases h
  next hne =>
  split at h
  · next hfollows =>
    obtain ⟨n, hplace, hn⟩ := map_eq_ok_iff.mp h
    cases hn
    have hnumeral : Numeral (digits t).1 n :=
      numeral_iff.mpr ⟨by simpa using hne, fun d => isDigit_of_mem_digits, hplace⟩
    rw [Option.all_eq_true] at hfollows
    have hends : Follows (digits t).2 := fun c hc => by simpa using hfollows c hc
    exact Or.inr ⟨(digits t).1, n, rfl, hnumeral, (digits_append t).symm, hends⟩
  · cases h

lemma denotes_of_dotted {total : Nat} {t r : Text} {s : Step} (h : dotted total t = .ok (s, r)) :
    ∃ u : Text, t = u ++ r ∧ Denotes ("." ++ u) s := by
  obtain ⟨n, rfl, hname⟩ | ⟨ds, n, rfl, hnumeral, ht, -⟩ := dotted_cases h
  · obtain ⟨hn, ht⟩ := isName_of_name? hname
    exact ⟨n, ht, .name hn⟩
  · exact ⟨ds, ht, .dotted hnumeral⟩

/-- What begins with a digit is no key. -/
lemma bracketed_row {ds : Text} (hne : ds ≠ []) (hdigits : ∀ d ∈ ds, d.isDigit) (total : Nat)
    (r : Text) : bracketed total (ds ++ r) =
      (indexNumber total (ds ++ r)).map fun (n, rest) => (.index n, rest) := by
  obtain ⟨d, t, rfl⟩ := List.exists_cons_of_ne_nil hne
  have hd := hdigits d List.mem_cons_self
  have hsplat : d ≠ CodePoint.ofChar '*' := by
    rintro rfl
    exact absurd hd (by decide)
  have hmark : d ≠ CodePoint.ofChar '"' := by
    rintro rfl
    exact absurd hd (by decide)
  rw [List.cons_append, bracketed, if_neg hsplat, if_neg hmark]

lemma Numeral.bracketed_eq {ds : Text} {n : Nat} (h : Numeral ds n) (total : Nat) (r : Text) :
    bracketed total (ds ++ ("]" ++ r)) = .ok (.index n, "]" ++ r) := by
  rw [bracketed_row h.nonempty h.digits, h.indexNumber_eq]
  rfl

lemma Spells.bracketed_eq {t k : Text} (h : Spells t k) (total : Nat) (r : Text) :
    bracketed total ("\"" ++ (t ++ ("\"" ++ r))) = .ok (.key k, r) := by
  have hmark : ∀ u : Text, ("\"" ++ u : Text) = CodePoint.ofChar '"' :: u := fun _ => rfl
  rw [hmark, bracketed, if_neg (by simp), if_pos rfl, h.quotedKey_eq]
  rfl

/-- What is read behind a bracket is a key up to its closing mark, or digits as far as they go. -/
lemma bracketed_cases {total : Nat} {t r : Text} {s : Step} (h : bracketed total t = .ok (s, r)) :
    (∃ u k, s = .key k ∧ Spells u k ∧ t = "\"" ++ (u ++ ("\"" ++ r))) ∨
      ∃ ds n, s = .index n ∧ Numeral ds n ∧ t = ds ++ r ∧ ∀ c ∈ r.head?, ¬ c.isDigit := by
  cases t with
  | nil => cases h
  | cons c t =>
    rw [bracketed] at h
    split at h
    · cases h
    split at h
    · next hmark =>
      subst hmark
      obtain ⟨⟨k, r'⟩, hkey, hk⟩ := map_eq_ok_iff.mp h
      cases hk
      obtain ⟨u, rfl, hu⟩ := spells_of_quotedKey hkey
      exact Or.inl ⟨u, k, rfl, hu, rfl⟩
    · obtain ⟨⟨n, r'⟩, hnumber, hn⟩ := map_eq_ok_iff.mp h
      cases hn
      obtain ⟨ds, ht, hds, hstop⟩ := numeral_of_indexNumber hnumber
      exact Or.inr ⟨ds, n, rfl, hds, ht, hstop⟩

lemma denotes_of_bracketed {total : Nat} {t r : Text} {s : Step}
    (h : bracketed total t = .ok (s, r)) :
    ∃ u : Text, t = u ++ r ∧ Denotes ("[" ++ (u ++ "]")) s := by
  obtain ⟨u, k, rfl, hu, rfl⟩ | ⟨ds, n, rfl, hds, ht, -⟩ := bracketed_cases h
  · refine ⟨"\"" ++ (u ++ "\""), by simp [Text.ofString], ?_⟩
    have hkeyed := Denotes.key hu
    simpa [Text.ofString] using hkeyed
  · exact ⟨ds, ht, .index hds⟩

lemma segment_dot (total : Nat) (t : Text) : segment total ("." ++ t) = dotted total t := by
  have hdot : ("." ++ t : Text) = CodePoint.ofChar '.' :: t := rfl
  rw [hdot, segment, if_pos rfl]

lemma segment_bracket {total : Nat} {t r : Text} {s : Step}
    (h : bracketed total t = .ok (s, "]" ++ r)) : segment total ("[" ++ t) = .ok (s, r) := by
  have hopen : ("[" ++ t : Text) = CodePoint.ofChar '[' :: t := rfl
  have hclose : ("]" ++ r : Text) = CodePoint.ofChar ']' :: r := rfl
  rw [hclose] at h
  rw [hopen, segment, if_neg (by simp), if_pos rfl, h]
  rfl

lemma bracketed_of_segment {total : Nat} {t r : Text} {s : Step}
    (h : segment total ("[" ++ t) = .ok (s, r)) : bracketed total t = .ok (s, "]" ++ r) := by
  have hopen : ("[" ++ t : Text) = CodePoint.ofChar '[' :: t := rfl
  rw [hopen, segment, if_neg (by simp), if_pos rfl] at h
  obtain ⟨⟨s', r'⟩, hbracketed, hrest⟩ := bind_eq_ok_iff.mp h
  simp only at hrest
  split at hrest
  · split at hrest
    · next hclose =>
      subst hclose
      cases hrest
      exact hbracketed
    · cases hrest
  · cases hrest

/-- Behind a bracket stands what stops the reader, or the closing bracket is missing. -/
lemma bracket_error_cases {total : Nat} {t : Text} {e : PathError}
    (h : segment total ("[" ++ t) = .error e) :
    bracketed total t = .error e ∨ ∃ s r, bracketed total t = .ok (s, r) ∧
      (∀ c ∈ r.head?, c ≠ CodePoint.ofChar ']') ∧
      e = .fault (.unclosedBracket (total - r.length)) := by
  have hopen : ("[" ++ t : Text) = CodePoint.ofChar '[' :: t := rfl
  rw [hopen, segment, if_neg (by simp), if_pos rfl] at h
  obtain hbracketed | ⟨⟨s, r⟩, hbracketed, hrest⟩ := bind_eq_error_iff.mp h
  · exact Or.inl hbracketed
  · refine Or.inr ⟨s, r, hbracketed, ?_⟩
    simp only at hrest
    split at hrest
    · split at hrest
      · cases hrest
      · next hclose =>
        cases hrest
        refine ⟨?_, by rw [List.length_cons, Nat.sub_sub]⟩
        rintro c ⟨rfl⟩
        exact hclose
    · cases hrest
      exact ⟨by simp, rfl⟩

/-! A segment that ends in a bracket is read in front of anything. -/

lemma Numeral.segment_eq {ds : Text} {n : Nat} (h : Numeral ds n) (total : Nat) (r : Text) :
    segment total ("[" ++ (ds ++ "]") ++ r) = .ok (.index n, r) := by
  rw [List.append_assoc, List.append_assoc]
  exact segment_bracket (h.bracketed_eq total r)

lemma Spells.segment_eq {t k : Text} (h : Spells t k) (total : Nat) (r : Text) :
    segment total ("[\"" ++ (t ++ "\"]") ++ r) = .ok (.key k, r) := by
  have hkey := segment_bracket (h.bracketed_eq total ("]" ++ r))
  simpa [Text.ofString] using hkey

/-- A segment is read as far as it reaches. -/
lemma Denotes.segment_eq {u r : Text} {s : Step} (h : Denotes u s) (follows : Follows r)
    (total : Nat) : segment total (u ++ r) = .ok (s, r) := by
  cases h with
  | name h => rw [List.append_assoc, segment_dot, h.dotted_eq follows.not_continuesName]
  | dotted h => rw [List.append_assoc, segment_dot, h.dotted_eq follows]
  | index h => exact h.segment_eq total r
  | key h => exact h.segment_eq total r

/-- All that matters behind a segment is what the rest begins with. -/
lemma Denotes.segment_congr {u r r' : Text} {s : Step} {total : Nat} (h : Denotes u s)
    (hread : segment total (u ++ r) = .ok (s, r)) (alike : r'.head? = r.head?) (total' : Nat) :
    segment total' (u ++ r') = .ok (s, r') := by
  cases h with
  | name h =>
    rw [List.append_assoc, segment_dot] at hread ⊢
    obtain ⟨n, hn, hname⟩ | ⟨ds, n, hn, -⟩ := dotted_cases hread
    · cases hn
      exact h.dotted_eq (alike ▸ not_continuesName_of_name? hname) total'
    · cases hn
  | dotted h =>
    rw [List.append_assoc, segment_dot] at hread ⊢
    obtain ⟨n, hn, -⟩ | ⟨ds, n, -, -, -, follows⟩ := dotted_cases hread
    · cases hn
    · have hfollows : Follows r' := fun c hc => follows c (alike ▸ hc)
      exact h.dotted_eq hfollows total'
  | index h => exact h.segment_eq total' r'
  | key h => exact h.segment_eq total' r'

/-- What is read as a segment is one. -/
lemma denotes_of_segment {total : Nat} {t r : Text} {s : Step}
    (h : segment total t = .ok (s, r)) : ∃ u : Text, t = u ++ r ∧ Denotes u s := by
  cases t with
  | nil => cases h
  | cons c t =>
    by_cases hdot : c = CodePoint.ofChar '.'
    · subst hdot
      obtain ⟨u, rfl, hu⟩ := denotes_of_dotted ((segment_dot total t).symm.trans h)
      exact ⟨"." ++ u, rfl, hu⟩
    by_cases hopen : c = CodePoint.ofChar '['
    · subst hopen
      obtain ⟨u, rfl, hu⟩ := denotes_of_bracketed (bracketed_of_segment h)
      exact ⟨"[" ++ (u ++ "]"), by simp [Text.ofString], hu⟩
    · rw [segment, if_neg hdot, if_neg hopen] at h
      cases h

/-! ### Paths -/

lemma segments_nil (total : Nat) : segments total [] = .ok [] := by rw [segments.eq_def]

lemma segments_of_segment {total : Nat} {t r : Text} {s : Step}
    (h : segment total t = .ok (s, r)) : segments total t = (segments total r).map (s :: ·) := by
  cases t with
  | nil => cases h
  | cons c t =>
    rw [segments.eq_def]
    simp only
    split
    · next he => rw [h] at he; cases he
    · next hs =>
      rw [h] at hs
      cases hs
      rfl

lemma segments_of_segment_error {total : Nat} {t : Text} {e : PathError} (hne : t ≠ [])
    (h : segment total t = .error e) : segments total t = .error e := by
  obtain ⟨c, t, rfl⟩ := List.exists_cons_of_ne_nil hne
  rw [segments.eq_def]
  simp only
  split
  · next hs =>
    rw [h] at hs
    cases hs
    rfl
  · next hs =>
    rw [h] at hs
    cases hs

/-- Each segment begins with a dot or a bracket. -/
lemma Denotes.follows {u : Text} {s : Step} (h : Denotes u s) (r : Text) : Follows (u ++ r) := by
  cases h with
  | name | dotted => rintro c ⟨rfl⟩; exact Or.inl rfl
  | index | key => rintro c ⟨rfl⟩; exact Or.inr rfl

section Segments

variable {l : List (Text × Step)} (denote : ∀ s ∈ l, Denotes s.1 s.2)

include denote

lemma follows_segments : Follows (l.flatMap Prod.fst) := by
  cases l with
  | nil => exact nofun
  | cons s l =>
    rw [List.flatMap_cons]
    exact (denote s (by simp)).follows _

lemma segments_eq (total : Nat) : segments total (l.flatMap Prod.fst) = .ok (l.map Prod.snd) := by
  induction l with
  | nil => exact segments_nil total
  | cons s l ih =>
    obtain ⟨hs, hl⟩ := List.forall_mem_cons.mp denote
    rw [List.flatMap_cons, segments_of_segment (hs.segment_eq (follows_segments hl) total), ih hl]
    rfl

end Segments

lemma exists_of_segments {total : Nat} {t : Text} {steps : List Step}
    (h : segments total t = .ok steps) :
    ∃ l : List (Text × Step), (∀ s ∈ l, Denotes s.1 s.2) ∧ l.flatMap Prod.fst = t ∧
      l.map Prod.snd = steps := by
  fun_induction segments total t generalizing steps with
  | case1 =>
    cases h
    exact ⟨[], nofun, rfl, rfl⟩
  | case2 => cases h
  | case3 c t s r hsegment ih =>
    obtain ⟨rest, hrest, hsteps⟩ := map_eq_ok_iff.mp h
    obtain ⟨u, ht, hu⟩ := denotes_of_segment hsegment
    obtain ⟨l, hl, rfl, rfl⟩ := ih hrest
    exact ⟨(u, s) :: l, List.forall_mem_cons.mpr ⟨hu, hl⟩, ht.symm, hsteps⟩

/-- Behind the segments that are read stands what stops the reader. They are read as well in front
of any other rest that begins alike. -/
lemma exists_of_segments_error {total : Nat} {t : Text} {e : PathError}
    (h : segments total t = .error e) :
    ∃ (l : List (Text × Step)) (u : Text), (∀ s ∈ l, Denotes s.1 s.2) ∧
      l.flatMap Prod.fst ++ u = t ∧ segment total u = .error e ∧
      ∀ u' : Text, u'.head? = u.head? → ∀ total', segments total' (l.flatMap Prod.fst ++ u') =
        (segments total' u').map (l.map Prod.snd ++ ·) := by
  fun_induction segments total t with
  | case1 => cases h
  | case2 c t e' hsegment =>
    cases h
    refine ⟨[], c :: t, nofun, rfl, hsegment, fun u' _ total' => ?_⟩
    cases h : segments total' u' <;> simp [h, Except.map]
  | case3 c t s r hsegment ih =>
    obtain ⟨l, u, hl, rfl, hu, hcongr⟩ := ih (map_eq_error_iff.mp h)
    obtain ⟨v, ht, hv⟩ := denotes_of_segment hsegment
    rw [ht] at hsegment ⊢
    refine ⟨(v, s) :: l, u, List.forall_mem_cons.mpr ⟨hv, hl⟩, ?_, hu, fun u' alike total' => ?_⟩
    · rw [List.flatMap_cons, List.append_assoc]
    · -- What stands behind the first segment begins alike, whether or not there are others.
      have hrest : (l.flatMap Prod.fst ++ u').head? = (l.flatMap Prod.fst ++ u).head? := by
        rw [List.head?_append, List.head?_append, alike]
      have hfirst := hv.segment_congr hsegment hrest total'
      rw [List.flatMap_cons, List.append_assoc, segments_of_segment hfirst,
        hcongr u' alike total']
      cases segments total' u' <;> rfl

/-- The segments of a text are determined by it. -/
lemma segments_inj {l l' : List (Text × Step)} (hl : ∀ s ∈ l, Denotes s.1 s.2)
    (hl' : ∀ s ∈ l', Denotes s.1 s.2) (h : l.flatMap Prod.fst = l'.flatMap Prod.fst) : l = l' := by
  -- The reader finds the same first segment and the same rest, whichever list the text is from.
  have hread : ∀ {s : Text × Step} {l : List (Text × Step)}, (∀ s' ∈ s :: l, Denotes s'.1 s'.2) →
      segment 0 ((s :: l).flatMap Prod.fst) = .ok (s.2, l.flatMap Prod.fst) := by
    intro s l hsl
    obtain ⟨hs, hl⟩ := List.forall_mem_cons.mp hsl
    exact hs.segment_eq (follows_segments hl) 0
  induction l generalizing l' with
  | nil =>
    cases l' with
    | nil => rfl
    | cons s' l' =>
      have hs' := hread hl'
      rw [← h] at hs'
      cases hs'
  | cons s l ih =>
    have hs := hread hl
    cases l' with
    | nil =>
      rw [h] at hs
      cases hs
    | cons s' l' =>
      have hs' := hread hl'
      rw [← h, hs] at hs'
      obtain ⟨hstep, hrest⟩ := Prod.mk.inj (Except.ok.inj hs')
      have htext : s.1 = s'.1 := by
        rw [List.flatMap_cons, List.flatMap_cons, hrest] at h
        exact List.append_cancel_right h
      rw [Prod.ext htext hstep,
        ih (List.forall_mem_cons.mp hl).2 (List.forall_mem_cons.mp hl').2 hrest]

/-- A name is read first, and then the segments behind it. -/
lemma parse_of_name? {t n r : Text} (h : name? t = some (n, r)) :
    parse t = (segments t.length r).map fun steps => ⟨.field n :: steps⟩ := by
  obtain ⟨hn, ht⟩ := isName_of_name? h
  obtain ⟨c, n', rfl, hfirst⟩ := hn.head
  have hsplat : c ≠ CodePoint.ofChar '*' := by
    rintro rfl
    exact absurd hfirst (by decide)
  rw [parse, if_neg (by simp [ht]), if_neg (by simpa [ht] using hsplat), h]

lemma IsName.parse_eq {n r : Text} (h : IsName n) (follows : Follows r) :
    parse (n ++ r) = (segments (n ++ r).length r).map fun steps => ⟨.field n :: steps⟩ :=
  parse_of_name? (h.name?_eq follows.not_continuesName)

namespace Form

/-- A form is read as the path that it denotes. -/
lemma parse_text (f : Form) : parse f.text = .ok f.path := by
  rw [text, f.isName.parse_eq (follows_segments f.denote), segments_eq f.denote]
  rfl

/-- What is read has a form. -/
lemma exists_of_parse {t : Text} {p : Path} (h : parse t = .ok p) :
    ∃ f : Form, f.text = t ∧ f.path = p := by
  rw [parse] at h
  split at h
  · cases h
  split at h
  · cases h
  split at h
  · cases h
  · next n r hname =>
    obtain ⟨steps, hsteps, rfl⟩ := map_eq_ok_iff.mp h
    obtain ⟨hn, rfl⟩ := isName_of_name? hname
    obtain ⟨l, hl, rfl, rfl⟩ := exists_of_segments hsteps
    exact ⟨⟨n, l, hn, hl⟩, rfl, rfl⟩

lemma text_injective : Function.Injective text := by
  intro f g h
  have hread : ∀ f : Form, name? f.text = some (f.root, f.segments.flatMap Prod.fst) :=
    fun f => f.isName.name?_eq (follows_segments f.denote).not_continuesName
  have hname := hread f
  rw [h, hread g] at hname
  obtain ⟨hroot, hsegments⟩ := Prod.mk.inj (Option.some.inj hname)
  exact Form.ext hroot.symm (segments_inj f.denote g.denote hsegments.symm)

end Form

/-- A text is read as a path exactly if it has a form that denotes the path, and what is read has
one form only. -/
theorem parse_eq_ok_iff_form (t : Text) :
    (∀ p, parse t = .ok p ↔ ∃ f : Form, f.text = t ∧ f.path = p) ∧
      ((∃ p, parse t = .ok p) ↔ ∃! f : Form, f.text = t) := by
  constructor
  · intro p
    constructor
    · exact Form.exists_of_parse
    · rintro ⟨f, rfl, rfl⟩
      exact f.parse_text
  · constructor
    · rintro ⟨p, h⟩
      obtain ⟨f, rfl, -⟩ := Form.exists_of_parse h
      exact ⟨f, rfl, fun g hg => Form.text_injective hg⟩
    · rintro ⟨f, rfl, -⟩
      exact ⟨f.path, f.parse_text⟩

end Path

end Settle

import Mathlib.Data.List.Infix
import Settle.Proofs.Path.Reading

/-!
# Where a text goes wrong

A fault that is reported at an offset is reported where the text goes wrong: some path begins with
all that is in front of the offset, and none goes on with what is there. Only a name that begins
with digits is reported where it begins, since the digits alone would be an index.
-/

namespace Settle

/-! ### What is said of an offset -/

/-- Of two texts, one ends in the other exactly if they have the same last word, and end alike in
front of it. -/
lemma Text.isSuffix_word_iff {blank : CodePoint} {u v w x : Text} (hw : blank ∉ w)
    (hx : blank ∉ x) : u ++ blank :: w <:+ v ++ blank :: x ↔ w = x ∧ u <:+ v := by
  constructor
  · rintro ⟨y, hy⟩
    rw [← List.append_assoc] at hy
    -- A blank between the two that are shown would stand in one of the words.
    obtain ⟨z, hv, hz⟩ | ⟨z, hv, hz⟩ := List.append_eq_append_iff.mp hy
    · cases z with
      | nil =>
        rw [List.append_nil] at hv
        exact ⟨(List.cons.inj hz).2, y, hv.symm⟩
      | cons c z =>
        obtain ⟨rfl, rfl⟩ := List.cons.inj hz
        exact absurd (by simp) hw
    · cases z with
      | nil =>
        rw [List.append_nil] at hv
        exact ⟨(List.cons.inj hz).2.symm, y, hv⟩
      | cons c z =>
        obtain ⟨rfl, rfl⟩ := List.cons.inj hz
        exact absurd (by simp) hx
  · rintro ⟨rfl, y, rfl⟩
    exact ⟨y, by simp⟩

namespace PathFault

variable {f : PathFault} {n : Nat}

lemma exists_detail_of_offset (h : f.offset? = some n) :
    ∃ what : Text, f.detail = what ++ (" at offset " ++ Decimal.ofNat n) := by
  cases f with
  | expectedName m | digitsInName m | expectedIndex m | unclosedBracket m | unexpected c m =>
    cases h
    exact ⟨_, List.append_assoc _ _ _⟩
  | _ => cases h

/-- Where no offset is named, the last word is no numeral, or another word stands in front of it. -/
lemma exists_detail_of_no_offset (h : f.offset? = none) :
    ∃ u w : Text, f.detail = u ++ CodePoint.ofChar ' ' :: w ∧ CodePoint.ofChar ' ' ∉ w ∧
      (¬ w.all CodePoint.isDigit ∨ ¬ ("at offset" : Text) <:+ u) := by
  have hhex : ∀ width n, CodePoint.ofChar ' ' ∉ Text.hex width n := by
    intro width n hmem
    exact absurd (Text.isHexDigit_of_mem_hex hmem) (by decide)
  cases f with
  | notText => exact ⟨"path must be a", "string", rfl, by decide, Or.inl (by decide)⟩
  | empty => exact ⟨"path is", "empty", rfl, by decide, Or.inl (by decide)⟩
  | splat => exact ⟨"splat is not", "supported", rfl, by decide, Or.inl (by decide)⟩
  | fractionalIndex =>
    exact ⟨"index in field path must be an", "integer", rfl, by decide, Or.inl (by decide)⟩
  | unclosedQuote => exact ⟨"unterminated quoted", "key", rfl, by decide, Or.inl (by decide)⟩
  | unknownEscape c =>
    exact ⟨"invalid escape \\" ++ c :: " in quoted", "key", by simp [detail, Text.ofString],
      by decide, Or.inl (by decide)⟩
  | shortEscape c width =>
    exact ⟨"invalid \\" ++ c :: " escape, expected " ++ Decimal.ofNat width ++ " hex", "digits",
      by simp [detail, Text.ofString], by decide, Or.inl (by decide)⟩
  | unpairedSurrogate high low =>
    refine ⟨"invalid surrogate pair", "\\u" ++ Text.hex 4 high ++ "\\u" ++ Text.hex 4 low,
      by simp [detail, Text.ofString], by simp [Text.ofString, hhex], Or.inl fun hall => ?_⟩
    have hslash := List.all_eq_true.mp hall '\\' (by simp [Text.ofString])
    exact absurd hslash (by decide)
  | noCodePoint c number =>
    by_cases hc : c = CodePoint.ofChar ' '
    · subst hc
      exact ⟨"invalid code point \\", Text.hex 0 number, by simp [detail, Text.ofString],
        hhex 0 number, Or.inr (by decide)⟩
    · exact ⟨"invalid code point", "\\" ++ c :: Text.hex 0 number,
        by simp [detail, Text.ofString], by simp [Text.ofString, hhex, Ne.symm hc],
        Or.inr (by decide)⟩
  | expectedName | digitsInName | expectedIndex | unclosedBracket | unexpected => cases h

/-- An offset is what the wording of a fault ends in. -/
lemma offset?_eq_some_iff :
    f.offset? = some n ↔ ("at offset " ++ Decimal.ofNat n : Text) <:+ f.detail := by
  have hblank : ∀ m, CodePoint.ofChar ' ' ∉ Decimal.ofNat m := by
    intro m hmem
    exact absurd (Decimal.isDigit_of_mem_ofNat hmem) (by decide)
  have hwords : ("at offset " ++ Decimal.ofNat n : Text) =
      "at offset" ++ CodePoint.ofChar ' ' :: Decimal.ofNat n := rfl
  constructor
  · intro h
    obtain ⟨what, hdetail⟩ := exists_detail_of_offset h
    rw [hdetail]
    exact (List.suffix_cons (CodePoint.ofChar ' ') _).trans (List.suffix_append what _)
  · intro h
    rw [hwords] at h
    cases hoffset : f.offset? with
    | none =>
      obtain ⟨u, w, hdetail, hw, hother⟩ := exists_detail_of_no_offset hoffset
      rw [hdetail, Text.isSuffix_word_iff (hblank n) hw] at h
      obtain ⟨rfl, hu⟩ := h
      rcases hother with hnumeral | hnot
      · exact absurd (List.all_eq_true.mpr fun d => Decimal.isDigit_of_mem_ofNat) hnumeral
      · exact absurd hu hnot
    | some m =>
      obtain ⟨what, hdetail⟩ := exists_detail_of_offset hoffset
      have hsplit :
          f.detail = (what ++ " at offset") ++ CodePoint.ofChar ' ' :: Decimal.ofNat m := by
        rw [hdetail, List.append_assoc]
        rfl
      rw [hsplit, Text.isSuffix_word_iff (hblank n) (hblank m)] at h
      rw [Decimal.ofNat_injective h.1]

end PathFault

namespace Path

/-! ### Segments that cannot go on -/

/-- Some segment begins with a text. -/
def Begun (w : Text) : Prop := ∃ u s, Denotes (w ++ u) s

/-- A segment that is begun with the first text cannot go on with the second. -/
inductive Stuck : Text → Text → Prop where
  /-- Nothing that begins a segment. -/
  | start {c : CodePoint} {r : Text} (dot : c ≠ '.') (bracket : c ≠ '[') : Stuck [] (c :: r)
  /-- Neither a name nor digits behind a dot. -/
  | dot {r : Text} (h : ∀ c ∈ r.head?, ¬ beginsName c ∧ ¬ c.isDigit) : Stuck "." r
  /-- Neither digits nor a key behind a bracket. -/
  | bracket {r : Text} (h : ∀ c ∈ r.head?, ¬ c.isDigit ∧ c ≠ '"') : Stuck "[" r
  /-- No further digit behind an index, and no closing bracket. -/
  | index {ds r : Text} {n : Nat} (numeral : Numeral ds n)
      (h : ∀ c ∈ r.head?, ¬ c.isDigit ∧ c ≠ ']') : Stuck ("[" ++ ds) r
  /-- No closing bracket behind a key. -/
  | key {t k r : Text} (spells : Spells t k) (h : ∀ c ∈ r.head?, c ≠ ']') :
      Stuck ("[\"" ++ (t ++ "\"")) r

lemma isName_letter : IsName "a" := .intro (Or.inl rfl) nofun

lemma begun_dot : Begun "." := ⟨"a", .field "a", .name isName_letter⟩

namespace Stuck

variable {w r r' : Text}

lemma begun (h : Stuck w r) : Begun w := by
  cases h with
  | start => exact ⟨".a", .field "a", .name isName_letter⟩
  | dot => exact begun_dot
  | bracket =>
    have hdigit : ∀ d ∈ ("0" : Text), d.isDigit := List.forall_mem_singleton.mpr rfl
    have hzero : Numeral "0" 0 := ⟨by decide, by decide, hdigit, by decide⟩
    exact ⟨"0]", .index 0, .index hzero⟩
  | index numeral => exact ⟨"]", _, by simpa using Denotes.index numeral⟩
  | key spells => exact ⟨"]", _, by simpa [Text.ofString] using Denotes.key spells⟩

/-- What a segment goes on with is told from its first code point. -/
lemma congr (h : Stuck w r) (alike : r'.head? = r.head?) : Stuck w r' := by
  cases h with
  | start dot bracket =>
    obtain ⟨t, rfl⟩ := List.head?_eq_some_iff.mp alike
    exact .start dot bracket
  | dot h => exact .dot (alike ▸ h)
  | bracket h => exact .bracket (alike ▸ h)
  | index numeral h => exact .index numeral (alike ▸ h)
  | key spells h => exact .key spells (alike ▸ h)

lemma ne_closed (h : ∀ c ∈ r.head?, c ≠ ']') : r ≠ "]" ++ r' := by
  rintro rfl
  exact h ']' rfl rfl

/-- Nothing is read as a segment where one is stuck. -/
lemma segment_ne (h : Stuck w r) (total : Nat) (s : Step) (r' : Text) :
    segment total (w ++ r) ≠ .ok (s, r') := by
  intro hread
  cases h with
  | start dot bracket =>
    rw [List.nil_append, segment, if_neg dot, if_neg bracket] at hread
    cases hread
  | dot h =>
    rw [segment_dot] at hread
    obtain ⟨n, -, hname⟩ | ⟨ds, n, -, hnumeral, rfl, -⟩ := dotted_cases hread
    · obtain ⟨hn, rfl⟩ := isName_of_name? hname
      obtain ⟨c, t, rfl, hfirst⟩ := hn.head
      exact (h c rfl).1 hfirst
    · obtain ⟨d, t, rfl, hdigit⟩ := hnumeral.head
      exact (h d rfl).2 hdigit
  | bracket h =>
    obtain ⟨u, k, -, -, rfl⟩ | ⟨ds, n, -, hnumeral, rfl, -⟩ :=
      bracketed_cases (bracketed_of_segment hread)
    · exact (h '"' rfl).2 rfl
    · obtain ⟨d, t, rfl, hdigit⟩ := hnumeral.head
      exact (h d rfl).1 hdigit
  | @index ds r n numeral h =>
    rw [List.append_assoc] at hread
    have hdigits := digits_row numeral.digits fun c hc => (h c hc).1
    obtain ⟨u, k, -, -, ht⟩ | ⟨ds', m, -, hnumeral, ht, hstop⟩ :=
      bracketed_cases (bracketed_of_segment hread)
    · obtain ⟨d, t, rfl, hdigit⟩ := numeral.head
      obtain rfl : d = CodePoint.ofChar '"' := (List.cons.inj ht).1
      exact absurd hdigit (by decide)
    · -- The same digits are read in either way, so that the same is left behind them.
      rw [ht, digits_row hnumeral.digits hstop] at hdigits
      exact ne_closed (fun c hc => (h c hc).2) (Prod.mk.inj hdigits).2.symm
  | @key t k r spells h =>
    have htext : ("[\"" ++ (t ++ "\"") ++ r : Text) = "[" ++ ("\"" ++ (t ++ ("\"" ++ r))) := by
      simp [Text.ofString]
    rw [htext] at hread
    have hbracketed := bracketed_of_segment hread
    rw [spells.bracketed_eq] at hbracketed
    exact ne_closed h (Prod.mk.inj (Except.ok.inj hbracketed)).2

end Stuck

/-! ### Faults in segments -/

section Faults

variable {total n : Nat} {t : Text} {f : PathFault}

/-- What is found behind a dot is found right there. -/
lemma stuck_of_dotted (h : dotted total t = .error (.fault f)) (offset : f.offset? = some n)
    (hle : t.length ≤ total) :
    n + t.length = total ∧ ((∀ m, f ≠ .digitsInName m) → Stuck "." t) := by
  simp only [dotted] at h
  split at h
  · cases h
    cases offset
  split at h
  · next hdigits =>
    split at h
    · cases h
    · next hname =>
      cases h
      cases offset
      refine ⟨by omega, fun _ => .dot fun c hc => ?_⟩
      obtain ⟨t, rfl⟩ := List.head?_eq_some_iff.mp hc
      constructor
      · intro hfirst
        rw [name?, if_pos hfirst] at hname
        cases hname
      · exact digits_cons_eq_nil_iff.mp (List.isEmpty_iff.mp hdigits)
  split at h
  · obtain ⟨-, hlong⟩ := place_eq_error_iff.mp (map_eq_error_iff.mp h)
    cases hlong
  · cases h
    cases offset
    exact ⟨by omega, fun hother => absurd rfl (hother _)⟩

/-- No digit stands where an index is expected. -/
lemma expected_of_indexNumber (h : indexNumber total t = .error (.fault f))
    (offset : f.offset? = some n) (hle : t.length ≤ total) :
    n + t.length = total ∧ ∀ c ∈ t.head?, ¬ c.isDigit := by
  simp only [indexNumber] at h
  split at h
  · next hdigits =>
    cases h
    cases offset
    refine ⟨by omega, fun c hc hdigit => ?_⟩
    obtain ⟨t, rfl⟩ := List.head?_eq_some_iff.mp hc
    have hminus : c ≠ CodePoint.ofChar '-' := by
      rintro rfl
      exact absurd hdigit (by decide)
    rw [skipMinus_of_head (by simpa using hminus)] at hdigits
    exact digits_cons_eq_nil_iff.mp (List.isEmpty_iff.mp hdigits) hdigit
  split at h
  · cases h
    cases offset
  · obtain ⟨-, hlong⟩ := place_eq_error_iff.mp (map_eq_error_iff.mp h)
    cases hlong

/-- What is found behind a bracket, and is not in a key, is found right there. -/
lemma stuck_of_bracketed (h : bracketed total t = .error (.fault f)) (offset : f.offset? = some n)
    (hle : t.length ≤ total) : n + t.length = total ∧ Stuck "[" t := by
  cases t with
  | nil =>
    cases h
    cases offset
    exact ⟨rfl, .bracket nofun⟩
  | cons c t =>
    rw [bracketed] at h
    split at h
    · cases h
      cases offset
    split at h
    · rw [offset?_of_quotedKey (map_eq_error_iff.mp h)] at offset
      cases offset
    next hmark =>
    obtain ⟨hn, hdigit⟩ := expected_of_indexNumber (map_eq_error_iff.mp h) offset hle
    refine ⟨hn, .bracket ?_⟩
    rintro d ⟨rfl⟩
    exact ⟨hdigit c rfl, hmark⟩

/-- What is read behind a bracket, and is not closed, is stuck. -/
lemma stuck_of_unclosed {r : Text} {s : Step} (h : bracketed total t = .ok (s, r))
    (unclosed : ∀ c ∈ r.head?, c ≠ ']') : ∃ w, "[" ++ t = w ++ r ∧ Stuck w r := by
  obtain ⟨u, k, -, spells, rfl⟩ | ⟨ds, m, -, numeral, rfl, stop⟩ := bracketed_cases h
  · exact ⟨"[\"" ++ (u ++ "\""), by simp [Text.ofString], .key spells unclosed⟩
  · refine ⟨"[" ++ ds, (List.append_assoc _ _ _).symm, .index numeral fun c hc => ?_⟩
    exact ⟨stop c hc, unclosed c hc⟩

/-- A fault in a segment is found where the segment is stuck, or in front of the digits that begin
a name. -/
lemma begun_of_segment (h : segment total t = .error (.fault f)) (offset : f.offset? = some n)
    (hle : t.length ≤ total) :
    ∃ w r, t = w ++ r ∧ n + r.length = total ∧ Begun w ∧
      ((∀ m, f ≠ .digitsInName m) → Stuck w r) := by
  cases t with
  | nil =>
    cases h
    cases offset
  | cons c t =>
    rw [List.length_cons] at hle
    by_cases hdot : c = CodePoint.ofChar '.'
    · subst hdot
      have hdotted : dotted total t = .error (.fault f) := (segment_dot total t).symm.trans h
      obtain ⟨hn, hstuck⟩ := stuck_of_dotted hdotted offset (by omega)
      exact ⟨".", t, rfl, hn, begun_dot, hstuck⟩
    by_cases hopen : c = CodePoint.ofChar '['
    · subst hopen
      obtain hbracketed | ⟨s, r, hbracketed, hunclosed, he⟩ := bracket_error_cases h
      · obtain ⟨hn, hstuck⟩ := stuck_of_bracketed hbracketed offset (by omega)
        exact ⟨"[", t, rfl, hn, hstuck.begun, fun _ => hstuck⟩
      · cases he
        cases offset
        have hr := bracketed_length hbracketed
        obtain ⟨w, ht, hstuck⟩ := stuck_of_unclosed hbracketed hunclosed
        exact ⟨w, r, ht, by omega, hstuck.begun, fun _ => hstuck⟩
    · rw [segment, if_neg hdot, if_neg hopen] at h
      cases h
      cases offset
      have hstuck : Stuck [] (c :: t) := .start hdot hopen
      refine ⟨[], c :: t, rfl, ?_, hstuck.begun, fun _ => hstuck⟩
      rw [List.length_cons]
      omega

end Faults

/-! ### Beginnings of paths -/

/-- Some text that is read as a path begins with a text. -/
def IsViable (t : Text) : Prop := ∃ u p, t <+: u ∧ parse u = .ok p

lemma IsViable.of_isPrefix {t u : Text} (h : IsViable u) (ht : t <+: u) : IsViable t := by
  obtain ⟨v, p, hv, hp⟩ := h
  exact ⟨v, p, ht.trans hv, hp⟩

/-- A path goes on with whatever begins a segment. -/
lemma Form.isViable_append {w : Text} (f : Form) (h : Begun w) : IsViable (f.text ++ w) := by
  obtain ⟨u, s, hs⟩ := h
  have hdenote : ∀ s' ∈ f.segments ++ [(w ++ u, s)], Denotes s'.1 s'.2 := by
    intro s' hs'
    rcases List.mem_append.mp hs' with hmem | hmem
    · exact f.denote s' hmem
    · rw [List.mem_singleton.mp hmem]
      exact hs
  have hread := parse_text ⟨f.root, f.segments ++ [(w ++ u, s)], f.isName, hdenote⟩
  refine ⟨_, _, ⟨u, ?_⟩, hread⟩
  simp [text]

lemma isViable_nil : IsViable [] :=
  (Form.isViable_append ⟨"a", [], isName_letter, nofun⟩ begun_dot).of_isPrefix List.nil_prefix

/-- Every path begins with the first code point of a name. -/
lemma not_isViable_of_not_begins {c : CodePoint} (h : ¬ beginsName c) : ¬ IsViable [c] := by
  rintro ⟨_, p, ⟨t, rfl⟩, hread⟩
  obtain ⟨f, hf, -⟩ := Form.exists_of_parse hread
  obtain ⟨d, n, hroot, hfirst⟩ := f.isName.head
  rw [Form.text, hroot] at hf
  obtain rfl : d = c := (List.cons.inj hf).1
  exact h hfirst

/-- No path goes on where a segment is stuck, behind the segments that are read. -/
lemma not_isViable_of_stuck {t root w r : Text} {c : CodePoint} {l : List (Text × Step)}
    (hname : name? t = some (root, l.flatMap Prod.fst ++ (w ++ c :: r)))
    (hcongr : ∀ u : Text, u.head? = (w ++ c :: r).head? → ∀ total,
      segments total (l.flatMap Prod.fst ++ u) = (segments total u).map (l.map Prod.snd ++ ·))
    (hstuck : Stuck w (c :: r)) : ¬ IsViable (root ++ (l.flatMap Prod.fst ++ (w ++ [c]))) := by
  rintro ⟨_, p, ⟨z, rfl⟩, hread⟩
  have hroot := (isName_of_name? hname).1
  have halike : (w ++ c :: z).head? = (w ++ c :: r).head? := by
    rw [List.head?_append, List.head?_append]
    rfl
  have hstop : ∀ d ∈ (l.flatMap Prod.fst ++ (w ++ c :: z)).head?, ¬ continuesName d := by
    rw [List.head?_append, halike, ← List.head?_append]
    exact not_continuesName_of_name? hname
  have htext : root ++ (l.flatMap Prod.fst ++ (w ++ [c])) ++ z
      = root ++ (l.flatMap Prod.fst ++ (w ++ c :: z)) := by simp
  rw [htext, parse_of_name? (hroot.name?_eq hstop), hcongr _ halike] at hread
  obtain ⟨_, hall, -⟩ := map_eq_ok_iff.mp hread
  obtain ⟨_, hrest, -⟩ := map_eq_ok_iff.mp hall
  have hstuck' : Stuck w (c :: z) := hstuck.congr rfl
  cases hsegment : segment (root ++ (l.flatMap Prod.fst ++ (w ++ c :: z))).length (w ++ c :: z) with
  | error e =>
    rw [segments_of_segment_error (by simp) hsegment] at hrest
    cases hrest
  | ok q => exact hstuck'.segment_ne _ q.1 q.2 hsegment

/-- What is in front of an offset begins a path, and with the code point there it begins none. -/
lemma exists_split_of_parse {t : Text} {f : PathFault} {n : Nat}
    (h : parse t = .error (.fault f)) (offset : f.offset? = some n) :
    ∃ w r, t = w ++ r ∧ w.length = n ∧ IsViable w ∧
      ((∀ m, f ≠ .digitsInName m) → ∀ c ∈ r.head?, ¬ IsViable (w ++ [c])) := by
  cases hname : name? t with
  | none =>
    rw [parse, hname] at h
    split at h
    · cases h
      cases offset
    split at h
    · cases h
      cases offset
    cases h
    cases offset
    refine ⟨[], t, rfl, rfl, isViable_nil,
      fun _ c hc => not_isViable_of_not_begins fun hfirst => ?_⟩
    obtain ⟨t, rfl⟩ := List.head?_eq_some_iff.mp hc
    rw [name?, if_pos hfirst] at hname
    cases hname
  | some p =>
    obtain ⟨root, r⟩ := p
    rw [parse_of_name? hname] at h
    obtain ⟨l, u, hl, rfl, hu, hcongr⟩ := exists_of_segments_error (map_eq_error_iff.mp h)
    obtain ⟨hroot, ht⟩ := isName_of_name? hname
    have hlength : root.length + ((l.flatMap Prod.fst).length + u.length) = t.length := by
      rw [ht, List.length_append, List.length_append]
    obtain ⟨w, r, rfl, hn, hbegun, hstuck⟩ := begun_of_segment hu offset (by omega)
    rw [List.length_append] at hlength
    refine ⟨root ++ (l.flatMap Prod.fst ++ w), r, by simp [ht], ?_, ?_, fun hother c hc => ?_⟩
    · rw [List.length_append, List.length_append]
      omega
    · have hviable := Form.isViable_append ⟨root, l, hroot, hl⟩ hbegun
      rwa [Form.text, List.append_assoc] at hviable
    · obtain ⟨r, rfl⟩ := List.head?_eq_some_iff.mp hc
      have hnot := not_isViable_of_stuck hname hcongr (hstuck hother)
      simpa using hnot

/-- Where a path cannot go on, it cannot go on further behind either. -/
lemma isViable_take_iff {w r : Text} {c : CodePoint} {k : Nat} (hviable : IsViable w)
    (hnot : ¬ IsViable (w ++ [c])) : IsViable ((w ++ c :: r).take k) ↔ k ≤ w.length := by
  constructor
  · intro hk
    by_contra hlt
    have hnext : w ++ [c] = (w ++ c :: r).take (w.length + 1) := by
      simp [List.take_append]
    refine hnot (hk.of_isPrefix ?_)
    rw [hnext, List.take_isPrefix_take]
    omega
  · intro hk
    have hprefix : (w ++ c :: r).take k <+: (w ++ c :: r).take w.length :=
      List.take_isPrefix_take.mpr (Or.inl hk)
    rw [List.take_left] at hprefix
    exact hviable.of_isPrefix hprefix

/-- An offset that a fault is reported with lies within the text, and some path begins with what
is in front of it. Unless the fault is a name that begins with digits, an offset in front of the
end is the place of the first code point that no path can have there: the text begins as some path
does up to the offset, and no further. -/
theorem offset_is_first_offending {t : Text} {f : PathFault} {n : Nat}
    (h : parse t = .error (.fault f))
    (named : ("at offset " ++ Decimal.ofNat n : Text) <:+ f.detail) :
    n ≤ t.length ∧ IsViable (t.take n) ∧
      (¬ ("invalid attribute name" : Text) <+: f.detail → n < t.length →
        ∀ k, IsViable (t.take k) ↔ k ≤ n) := by
  have hoffset := PathFault.offset?_eq_some_iff.mpr named
  obtain ⟨w, r, rfl, rfl, hviable, hoffends⟩ := exists_split_of_parse h hoffset
  rw [List.take_left]
  refine ⟨by simp, hviable, fun hother hlt k => ?_⟩
  have hdigits : ∀ m, f ≠ .digitsInName m := by
    rintro m rfl
    exact hother ⟨" at offset " ++ Decimal.ofNat m, (List.append_assoc _ _ _).symm⟩
  cases r with
  | nil => simp at hlt
  | cons c r => exact isViable_take_iff hviable (hoffends hdigits c rfl)

/-- A number that lacks its exponent, behind a key with a surrogate pair. -/
def bareExponent : Text := "x[\"\\ud83d\\ude00\"][1e]"

/-- The number ends in front of the letter, where a closing bracket is missing. -/
theorem bareExponent_offends_at_letter :
    parse bareExponent = .error (.fault (.unclosedBracket 19)) ∧
      ("at offset " ++ Decimal.ofNat 19 : Text) <:+ (PathFault.unclosedBracket 19).detail ∧
      ¬ ("invalid attribute name" : Text) <+: (PathFault.unclosedBracket 19).detail ∧
      19 < bareExponent.length ∧ IsViable (bareExponent.take 19) ∧
      ¬ IsViable (bareExponent.take 20) := by
  have hparse : parse bareExponent = .error (.fault (.unclosedBracket 19)) := by decide +kernel
  have hnamed : ("at offset " ++ Decimal.ofNat 19 : Text) <:+
      (PathFault.unclosedBracket 19).detail := by decide +kernel
  have hother : ¬ ("invalid attribute name" : Text) <+: (PathFault.unclosedBracket 19).detail := by
    decide +kernel
  have hlt : 19 < bareExponent.length := by decide
  obtain ⟨-, hviable, hfirst⟩ := offset_is_first_offending hparse hnamed
  refine ⟨hparse, hnamed, hother, hlt, hviable, fun h => ?_⟩
  have hle := (hfirst hother hlt 20).mp h
  omega

end Path

end Settle

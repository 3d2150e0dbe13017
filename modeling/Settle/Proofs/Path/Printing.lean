import Settle.Proofs.Path.Reading

/-!
# Reading a path back

The text of a path is read as the same path, unless one of its keys has a high surrogate right in
front of a code point that is written by its number. Such a pair is read as one code point or
refused, and nothing behind it makes up for that.
-/

namespace Settle

/-! ### How code points are written -/

namespace CodePoint

/-- The control characters that have a letter of their own. -/
def lettered : List CodePoint := ['\x08', '\t', '\n', '\x0c', '\r']

/-- Outside the range of printable ASCII, and without a letter. -/
def IsNumbered (c : CodePoint) : Prop := (c.val < 0x20 ∨ 0x7e < c.val) ∧ c ∉ lettered

instance (c : CodePoint) : Decidable c.IsNumbered := inferInstanceAs (Decidable (_ ∧ _))

lemma isNumbered_of_isHighSurrogate {c : CodePoint} (h : c.isHighSurrogate) : c.IsNumbered := by
  have hhigh := Path.isHighSurrogate_iff.mp h
  refine ⟨Or.inr (by omega), fun hmem => ?_⟩
  simp only [lettered, List.mem_cons, List.not_mem_nil, or_false] at hmem
  rcases hmem with rfl | rfl | rfl | rfl | rfl <;> exact absurd h (by decide)

end CodePoint

/-- No high surrogate stands right in front of a code point that is written by its number. -/
def Text.IsApart (t : Text) : Prop :=
  t.IsChain fun c d => c.isHighSurrogate → ¬ d.IsNumbered

/-- The key of a step, if it has one, is apart. -/
def Step.IsApart : Step → Prop
  | .key k => k.IsApart
  | _      => True

namespace Path

/-- The ways to write a code point between quotation marks. -/
inductive Writes (c : CodePoint) : Text → Prop where
  | letter {l : CodePoint} (mem : (l, c) ∈ letters) (plain : ¬ c.IsNumbered) : Writes c ['\\', l]
  | plain (mark : c ≠ '"') (backslash : c ≠ '\\') (plain : ¬ c.IsNumbered) : Writes c [c]
  | short (numbered : c.IsNumbered) (lt : c.val < 0x10000) : Writes c ("\\u" ++ Text.hex 4 c.val)
  | pair {high low : Nat} (numbered : c.IsNumbered) (units : c.units = [high, low]) :
      Writes c ("\\u" ++ Text.hex 4 high ++ ("\\u" ++ Text.hex 4 low))

lemma writes_escapedPoint (c : CodePoint) : Writes c (Text.escapedPoint c) := by
  rw [Text.escapedPoint]
  split
  · next l hl =>
    unfold CodePoint.shortEscape? at hl
    split_ifs at hl with h <;> cases hl <;> subst c
    all_goals exact .letter (by simp [letters]) (by decide)
  · next hnone =>
    have hne : ∀ d ∈ ['"', '\\', '\n', '\r', '\t', '\x08', '\x0c'], c ≠ CodePoint.ofChar d := by
      unfold CodePoint.shortEscape? at hnone
      split_ifs at hnone
      simp_all
    split
    · next hbetween =>
      have hval : 0x20 ≤ c.val ∧ c.val ≤ 0x7e := by
        simpa [CodePoint.between] using hbetween
      refine .plain (hne _ (by simp)) (hne _ (by simp)) ?_
      rintro ⟨hval', -⟩
      omega
    · next hbetween =>
      have hnumbered : c.IsNumbered := by
        have hval : ¬ (0x20 ≤ c.val ∧ c.val ≤ 0x7e) := by
          simpa [CodePoint.between] using hbetween
        refine ⟨by omega, fun hmem => ?_⟩
        simp only [CodePoint.lettered, List.mem_cons, List.not_mem_nil, or_false] at hmem
        rcases hmem with h | h | h | h | h <;> exact hne _ (by simp) h
      by_cases hlt : c.val < 0x10000
      · have hunits : c.units = [c.val] := by
          unfold CodePoint.units
          exact if_pos hlt
        rw [hunits, List.flatMap_singleton]
        exact .short hnumbered hlt
      · obtain ⟨high, low, hunits⟩ : ∃ high low, c.units = [high, low] := by
          unfold CodePoint.units
          rw [if_neg hlt]
          exact ⟨_, _, rfl⟩
        rw [hunits, List.flatMap_cons, List.flatMap_singleton]
        exact .pair hnumbered hunits

/-- Only code points that are written by their number begin with a short escape. -/
lemma isPrefix_escapedPoint_iff {c : CodePoint} {t : Text} :
    ("\\u" : Text) <+: Text.escapedPoint c ++ t ↔ c.IsNumbered := by
  have hshort : ∀ u : Text,
      ("\\u" ++ u : Text) = CodePoint.ofChar '\\' :: CodePoint.ofChar 'u' :: u := fun _ => rfl
  generalize hw : Text.escapedPoint c = w
  cases hw ▸ writes_escapedPoint c with
  | @letter l mem plain =>
    have hu : l ≠ CodePoint.ofChar 'u' := by
      rintro rfl
      exact not_mem_letters (Or.inl rfl) mem
    simp [isPrefix_short_iff, hu, plain]
  | plain mark backslash plain =>
    have hno : ¬ ("\\u" : Text) <+: c :: t := by
      rintro ⟨u, hu⟩
      rw [hshort] at hu
      exact backslash (List.cons.inj hu).1.symm
    simpa [plain] using hno
  | short numbered => simp [numbered, hshort, isPrefix_short_iff]
  | pair numbered => simp [numbered, hshort, isPrefix_short_iff]

/-! ### Keys -/

lemma hexNumeral_hex {width n : Nat} (hwidth : 0 < width) (h : n < 16 ^ width) :
    HexNumeral width (Text.hex width n) n :=
  ⟨Text.length_hex hwidth h, fun _ => Text.isHexDigit_of_mem_hex, Text.number_hex width n⟩

/-- What is read behind a backslash, and behind that. -/
lemma exists_of_quotedKey_escape {l : CodePoint} {t k r : Text}
    (h : quotedKey ("\\" ++ l :: t) = .ok (k, r)) :
    ∃ c t' k', escape l t = .ok (c, t') ∧ quotedKey t' = .ok (k', r) ∧ c :: k' = k := by
  cases hescape : escape l t with
  | error e =>
    have hcons : ("\\" ++ l :: t : Text) = CodePoint.ofChar '\\' :: l :: t := rfl
    rw [hcons, quotedKey.eq_def] at h
    simp only [CodePoint.ofChar_inj, Char.reduceEq, if_false, if_true] at h
    split at h
    · cases h
    · next he => rw [hescape] at he; cases he
  | ok p =>
    obtain ⟨c, t'⟩ := p
    rw [quotedKey_escape hescape] at h
    obtain ⟨⟨k', r'⟩, hk, h⟩ := map_eq_ok_iff.mp h
    cases h
    exact ⟨c, t', k', rfl, hk, rfl⟩

/-- A high surrogate that is written in front of a short escape is not read as itself. -/
lemma quotedKey_short_ne {c : CodePoint} {t k r : Text} (high : c.isHighSurrogate)
    (hshort : ("\\u" : Text) <+: t) :
    quotedKey ("\\u" ++ Text.hex 4 c.val ++ t) ≠ .ok (c :: k, r) := by
  intro h
  have hhigh := isHighSurrogate_iff.mp high
  have htext : ("\\u" ++ Text.hex 4 c.val ++ t : Text) =
      "\\" ++ CodePoint.ofChar 'u' :: (Text.hex 4 c.val ++ t) := rfl
  rw [htext] at h
  obtain ⟨c', t', k', hescape, -, hk⟩ := exists_of_quotedKey_escape h
  obtain rfl : c' = c := (List.cons.inj hk).1
  have hreads := (escape_number_iff (Or.inl rfl)).mp hescape
  generalize hn : c'.val = n at hreads hhigh
  cases hreads with
  | @alone ds _ _ digits text alone =>
    -- Four digits are taken, so that the short escape is what is left.
    have hlen : (Text.hex 4 c'.val).length = ds.length := by
      rw [Text.length_hex (by decide) (by omega), digits.length]
      rfl
    obtain ⟨-, rfl⟩ := List.append_inj (hn ▸ text) (hn ▸ hlen)
    exact alone ⟨hhigh, hshort⟩
  | pair _ _ _ high_mem low_mem =>
    unfold combine at hhigh
    omega

lemma map_cons_eq_ok_iff {c : CodePoint} {k r : Text} {x : Except PathError (Text × Text)} :
    x.map (fun (k, r) => (c :: k, r)) = .ok (c :: k, r) ↔ x = .ok (k, r) := by
  rw [map_eq_ok_iff]
  constructor
  · rintro ⟨⟨k', r'⟩, hx, h⟩
    obtain ⟨hk, rfl⟩ := Prod.mk.inj h
    rw [hx, (List.cons.inj hk).2]
  · intro hx
    exact ⟨(k, r), hx, rfl⟩

/-- A code point is read back exactly if it is no high surrogate in front of a short escape. -/
lemma quotedKey_escapedPoint_iff {c : CodePoint} {t k r : Text} :
    quotedKey (Text.escapedPoint c ++ t) = .ok (c :: k, r) ↔
      quotedKey t = .ok (k, r) ∧ (c.isHighSurrogate → ¬ ("\\u" : Text) <+: t) := by
  generalize hw : Text.escapedPoint c = w
  have hlow : ¬ c.IsNumbered → ¬ c.isHighSurrogate := mt CodePoint.isNumbered_of_isHighSurrogate
  cases hw ▸ writes_escapedPoint c with
  | letter mem plain =>
    have hread : Escape t _ c := .letter mem
    rw [hread.quotedKey_eq, map_cons_eq_ok_iff]
    simp [hlow plain]
  | plain mark backslash plain =>
    rw [List.singleton_append, quotedKey_plain mark backslash, map_cons_eq_ok_iff]
    simp [hlow plain]
  | short numbered lt =>
    by_cases halone : c.isHighSurrogate → ¬ ("\\u" : Text) <+: t
    · have hread : Escape t _ c := .number (.short (hexNumeral_hex (by decide) lt)) halone
      rw [hread.quotedKey_eq, map_cons_eq_ok_iff, and_iff_left halone]
    · obtain ⟨hhigh, hshort⟩ := Classical.not_imp.mp halone
      exact iff_of_false (quotedKey_short_ne hhigh (not_not.mp hshort)) fun h => halone h.2
  | @pair high low numbered units =>
    obtain ⟨hhigh, hlow, hval⟩ := units_eq_pair_iff.mp units
    have hread : Escape t _ c :=
      .pair (.short (hexNumeral_hex (by decide) (by omega))) (hexNumeral_hex (by decide) (by omega))
        units
    have hnot : ¬ c.isHighSurrogate := by
      intro h
      have h' := isHighSurrogate_iff.mp h
      unfold combine at hval
      omega
    rw [hread.quotedKey_eq, map_cons_eq_ok_iff]
    simp [hnot]

/-- A key is read back exactly if it is apart. -/
lemma quotedKey_escaped_iff {k r r' : Text} :
    quotedKey (k.flatMap Text.escapedPoint ++ ("\"" ++ r)) = .ok (k, r') ↔ r' = r ∧ k.IsApart := by
  induction k with
  | nil =>
    have hnil : Text.IsApart [] := List.IsChain.nil
    rw [List.flatMap_nil, List.nil_append, quotedKey_mark, and_iff_left hnil, Except.ok.injEq,
      Prod.mk.injEq, and_iff_right rfl, eq_comm]
  | cons c k ih =>
    rw [List.flatMap_cons, List.append_assoc, quotedKey_escapedPoint_iff, ih,
      isPrefix_short_append_iff, and_assoc, and_congr_right_iff]
    rintro -
    cases k with
    | nil => simp [Text.IsApart, Text.ofString]
    | cons d k =>
      rw [List.flatMap_cons, isPrefix_escapedPoint_iff, Text.IsApart, Text.IsApart,
        List.isChain_cons_cons, and_comm]

/-! ### Steps and paths -/

lemma numeral_ofNat {n : Nat} (h : (Decimal.ofNat n).length ≤ 4300) :
    Numeral (Decimal.ofNat n) n :=
  ⟨Decimal.ofNat_ne_nil n, h, fun _ => Decimal.isDigit_of_mem_ofNat, Decimal.number_ofNat n⟩

/-- A number that has a numeral is written by one that is short enough to be read. -/
lemma Numeral.ofNat {ds : Text} {n : Nat} (h : Numeral ds n) : Numeral (Decimal.ofNat n) n := by
  obtain ⟨hne, hlen, hdigits, rfl⟩ := h
  have hlt := Text.number_lt 10 Decimal.digitValue (by decide)
    fun d hd => Decimal.digitValue_lt (hdigits d hd)
  obtain ⟨k, hk⟩ := Nat.exists_eq_succ_of_ne_zero (List.length_pos_iff.mpr hne).ne'
  rw [hk] at hlt hlen
  exact numeral_ofNat ((Decimal.length_ofNat_le hlt).trans hlen)

lemma text_key_append (k r : Text) :
    (Step.key k).text ++ r
      = "[" ++ ("\"" ++ (k.flatMap Text.escapedPoint ++ ("\"" ++ ("]" ++ r)))) := by
  simp [Step.text, Text.escaped]

lemma segment_key_iff {total : Nat} {k r r' : Text} :
    segment total ((Step.key k).text ++ r) = .ok (.key k, r') ↔ r' = r ∧ k.IsApart := by
  have hmark : ∀ u : Text, ("\"" ++ u : Text) = CodePoint.ofChar '"' :: u := fun _ => rfl
  have hbracketed : ∀ {u r : Text}, bracketed total ("\"" ++ u) = .ok (.key k, r) ↔
      quotedKey u = .ok (k, r) := by
    intro u r
    rw [hmark, bracketed, if_neg (by simp), if_pos rfl, map_eq_ok_iff]
    simp
  rw [text_key_append]
  constructor
  · intro h
    have hkey := hbracketed.mp (bracketed_of_segment h)
    obtain ⟨hr, hk⟩ := quotedKey_escaped_iff.mp hkey
    exact ⟨List.append_cancel_left hr, hk⟩
  · rintro ⟨rfl, hk⟩
    exact segment_bracket (hbracketed.mpr (quotedKey_escaped_iff.mpr ⟨rfl, hk⟩))

/-- A step that some segment denotes is read back exactly if its key is apart. -/
lemma segment_text_iff {u r r' : Text} {s : Step} (h : Denotes u s) (follows : Follows r)
    (total : Nat) : segment total (s.text ++ r) = .ok (s, r') ↔ r' = r ∧ s.IsApart := by
  have hread : ∀ {s : Step}, Denotes s.text s →
      (segment total (s.text ++ r) = .ok (s, r') ↔ r' = r) := by
    intro s hs
    rw [hs.segment_eq follows]
    simp [eq_comm]
  cases h with
  | name h => simpa [Step.IsApart] using hread (s := .field _) (.name h)
  | @dotted ds n h | @index ds n h =>
    have hindex : Denotes (Step.index n).text (.index n) := by
      rw [Step.text, List.append_assoc]
      exact .index h.ofNat
    simpa [Step.IsApart] using hread hindex
  | key => exact segment_key_iff

lemma segments_of_ok {total : Nat} {t : Text} {s : Step} {steps : List Step}
    (h : segments total t = .ok (s :: steps)) :
    ∃ r, segment total t = .ok (s, r) ∧ segments total r = .ok steps := by
  have hne : t ≠ [] := by
    rintro rfl
    rw [segments_nil] at h
    cases h
  cases hsegment : segment total t with
  | error e =>
    rw [segments_of_segment_error hne hsegment] at h
    cases h
  | ok p =>
    obtain ⟨s', r⟩ := p
    rw [segments_of_segment hsegment] at h
    obtain ⟨steps', hsteps, heq⟩ := map_eq_ok_iff.mp h
    cases heq
    exact ⟨r, rfl, hsteps⟩

lemma follows_text (steps : List Step) : Follows (steps.flatMap Step.text) := by
  cases steps with
  | nil => exact nofun
  | cons s steps =>
    rw [List.flatMap_cons]
    cases s with
    | field => rintro c ⟨rfl⟩; exact Or.inl rfl
    | index | key => rintro c ⟨rfl⟩; exact Or.inr rfl

/-- The steps are read back exactly if each of their keys is apart. -/
lemma segments_text_iff {steps : List Step} (h : ∀ s ∈ steps, ∃ u, Denotes u s) (total : Nat) :
    segments total (steps.flatMap Step.text) = .ok steps ↔ ∀ s ∈ steps, s.IsApart := by
  induction steps with
  | nil => simp [segments_nil]
  | cons s steps ih =>
    obtain ⟨⟨u, hu⟩, hsteps⟩ := List.forall_mem_cons.mp h
    have hsegment : ∀ r, segment total (s.text ++ steps.flatMap Step.text) = .ok (s, r) ↔
        r = steps.flatMap Step.text ∧ s.IsApart :=
      fun r => segment_text_iff hu (follows_text steps) total
    rw [List.flatMap_cons, List.forall_mem_cons, ← ih hsteps]
    constructor
    · intro hread
      obtain ⟨r, hs, hrest⟩ := segments_of_ok hread
      obtain ⟨rfl, hapart⟩ := (hsegment r).mp hs
      exact ⟨hapart, hrest⟩
    · rintro ⟨hapart, hrest⟩
      rw [segments_of_segment ((hsegment _).mpr ⟨rfl, hapart⟩), hrest]
      rfl

/-- The first dot is left out. -/
lemma text_field (n : Text) (steps : List Step) :
    text ⟨.field n :: steps⟩ = n ++ steps.flatMap Step.text := by
  have hdot : (Step.field n :: steps).flatMap Step.text =
      CodePoint.ofChar '.' :: (n ++ steps.flatMap Step.text) := rfl
  rw [text, hdot]
  exact if_pos rfl

lemma isApart_of_not_isSurrogate {k : Text} (h : ∀ c ∈ k, ¬ c.isSurrogate) : k.IsApart := by
  refine List.Pairwise.isChain (List.pairwise_of_forall_mem_list ?_)
  intro c hc d _ hhigh
  exact absurd (by simp [CodePoint.isSurrogate, hhigh]) (h c hc)

lemma forall_isApart_iff {steps : List Step} :
    (∀ s ∈ steps, s.IsApart) ↔ ∀ k, .key k ∈ steps → k.IsApart := by
  constructor
  · intro h k hk
    exact h (.key k) hk
  · intro h s hs
    cases s with
    | key k => exact h k hs
    | field | index => trivial

/-- The text of a path that was read is read as the same path exactly if the keys are apart. What
is written by its number is all that is written behind `\u`, and keys without surrogates are
apart. -/
theorem parse_text_eq_ok_iff {t : Text} {p : Path} (h : parse t = .ok p) :
    (parse p.text = .ok p ↔ ∀ k, .key k ∈ p.steps → k.IsApart) ∧
      (∀ c : CodePoint, c.IsNumbered ↔ ("\\u" : Text) <+: Text.escapedPoint c) ∧
      ((∀ k, .key k ∈ p.steps → ∀ c ∈ k, ¬ c.isSurrogate) → parse p.text = .ok p) := by
  have hread : parse p.text = .ok p ↔ ∀ k, .key k ∈ p.steps → k.IsApart := by
    obtain ⟨f, -, rfl⟩ := Form.exists_of_parse h
    have hdenote : ∀ s ∈ f.segments.map Prod.snd, ∃ u, Denotes u s := by
      intro s hs
      obtain ⟨s', hs', rfl⟩ := List.mem_map.mp hs
      exact ⟨s'.1, f.denote s' hs'⟩
    rw [Form.path, text_field, f.isName.parse_eq (follows_text _), map_eq_ok_iff]
    simp only [mk.injEq, List.cons.injEq, true_and, exists_eq_right, List.mem_cons, reduceCtorEq,
      false_or]
    rw [segments_text_iff hdenote, forall_isApart_iff]
  refine ⟨hread, fun c => ?_, fun hkeys => ?_⟩
  · rw [← isPrefix_escapedPoint_iff (t := []), List.append_nil]
  · exact hread.mpr fun k hk => isApart_of_not_isSurrogate (hkeys k hk)

/-- Two surrogates that were written apart are read back as one code point. -/
theorem splitPair_not_read_back :
    parse "a[\"\\ud800\\U0000dc00\"]" = .ok ⟨[.field "a", .key [0xD800, 0xDC00]]⟩ ∧
      parse (text ⟨[.field "a", .key [0xD800, 0xDC00]]⟩)
        ≠ .ok ⟨[.field "a", .key [0xD800, 0xDC00]]⟩ := by
  have hparse : parse "a[\"\\ud800\\U0000dc00\"]"
      = .ok ⟨[.field "a", .key [0xD800, 0xDC00]]⟩ := by decide +kernel
  refine ⟨hparse, fun h => ?_⟩
  have hapart := (parse_text_eq_ok_iff hparse).1.mp h [0xD800, 0xDC00] (by simp)
  rw [Text.IsApart, List.isChain_cons_cons] at hapart
  exact hapart.1 (by decide) (by decide)


end Path

end Settle

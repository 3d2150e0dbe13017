import Settle.Path.Parser
import Settle.Proofs.Except
import Settle.Proofs.Path.Grammar

/-!
# Keys between quotation marks

The reader of keys takes exactly the texts that spell a key, up to the closing quotation mark, and
gives the key that is spelled. The proof goes by single escapes, where the reader looks at what is
behind an escape as the grammar does.
-/

namespace Settle

namespace Path

/-! ### Numbers -/

lemma hexNumber_eq_ok_iff {letter : CodePoint} {width n : Nat} {t r : Text} :
    hexNumber letter width t = .ok (n, r) ↔ ∃ ds, HexNumeral width ds n ∧ t = ds ++ r := by
  rw [hexNumber]
  constructor
  · intro h
    split at h
    · next hds =>
      obtain ⟨rfl, rfl⟩ := Prod.mk.inj (Except.ok.inj h)
      refine ⟨t.take width, ⟨hds.1, ?_, (Text.hexValue_eq_number _).symm⟩, ?_⟩
      · exact List.all_eq_true.mp hds.2
      · exact (List.take_append_drop width t).symm
    · cases h
  · rintro ⟨ds, ⟨rfl, hdigits, rfl⟩, rfl⟩
    rw [List.take_left, List.drop_left, if_pos ⟨rfl, List.all_eq_true.mpr hdigits⟩,
      Text.hexValue_eq_number]

/-- A code point has two units exactly if they are a surrogate pair that stands for it. -/
lemma units_eq_pair_iff {c : CodePoint} {high low : Nat} :
    c.units = [high, low] ↔
      (0xD800 ≤ high ∧ high ≤ 0xDBFF) ∧ (0xDC00 ≤ low ∧ low ≤ 0xDFFF) ∧
        c.val = combine high low := by
  have hlt := c.isLt
  unfold CodePoint.units combine
  split
  · simp only [List.cons.injEq, List.nil_eq, reduceCtorEq, and_false, false_iff]
    omega
  · simp only [List.cons.injEq, and_true]
    omega

lemma isHighSurrogate_iff {c : CodePoint} :
    c.isHighSurrogate = true ↔ 0xD800 ≤ c.val ∧ c.val ≤ 0xDBFF := by
  simp [CodePoint.isHighSurrogate]

lemma isPrefix_short_iff {b u : CodePoint} {t : Text} :
    ("\\u" : Text) <+: b :: u :: t ↔ b = '\\' ∧ u = 'u' := by
  have hshort : ("\\u" : Text) = [CodePoint.ofChar '\\', CodePoint.ofChar 'u'] := rfl
  rw [hshort, List.cons_prefix_cons, List.cons_prefix_cons]
  simp [eq_comm]

/-- The number of hexadecimal digits behind a letter. -/
def width (letter : CodePoint) : Nat := if letter = 'u' then 4 else 8

section EscapedNumber

variable {letter : CodePoint} {t r : Text} {code : Nat}

lemma escapedNumber_of_alone (h : hexNumber letter (width letter) t = .ok (code, r))
    (alone : ¬ ((0xD800 ≤ code ∧ code ≤ 0xDBFF) ∧ ("\\u" : Text) <+: r)) :
    escapedNumber letter t = .ok (code, r) := by
  rw [width] at h
  unfold escapedNumber
  simp only [h, bind, Except.bind]
  split
  · rw [isPrefix_short_iff] at alone
    rw [if_neg (by simpa using alone)]
    rfl
  · rfl

lemma escapedNumber_of_followed
    (h : hexNumber letter (width letter) t = .ok (code, "\\u" ++ r))
    (high : 0xD800 ≤ code ∧ code ≤ 0xDBFF) :
    escapedNumber letter t = (do
      let (low, r) ← hexNumber 'u' 4 r
      if 0xDC00 ≤ low && low ≤ 0xDFFF then return (combine code low, r)
      else .error (.fault (.unpairedSurrogate code low))) := by
  have hshort : ("\\u" ++ r : Text) = CodePoint.ofChar '\\' :: CodePoint.ofChar 'u' :: r := rfl
  rw [width, hshort] at h
  unfold escapedNumber
  simp only [h, bind, Except.bind]
  rw [if_pos (by simp [high])]

/-- A number is read alone, or with the low surrogate behind it. -/
inductive Reads (letter : CodePoint) (t : Text) : Nat → Text → Prop where
  | alone {ds r : Text} {n : Nat} (digits : HexNumeral (width letter) ds n) (text : t = ds ++ r)
      (alone : ¬ ((0xD800 ≤ n ∧ n ≤ 0xDBFF) ∧ ("\\u" : Text) <+: r)) : Reads letter t n r
  | pair {ds ds' r : Text} {high low : Nat} (digits : HexNumeral (width letter) ds high)
      (digits' : HexNumeral 4 ds' low) (text : t = ds ++ ("\\u" ++ (ds' ++ r)))
      (high_mem : 0xD800 ≤ high ∧ high ≤ 0xDBFF) (low_mem : 0xDC00 ≤ low ∧ low ≤ 0xDFFF) :
      Reads letter t (combine high low) r

lemma escapedNumber_eq_ok_iff {n : Nat} :
    escapedNumber letter t = .ok (n, r) ↔ Reads letter t n r := by
  constructor
  · intro h
    cases hfirst : hexNumber letter (width letter) t with
    | error e =>
      rw [width] at hfirst
      simp [escapedNumber, hfirst, bind, Except.bind] at h
    | ok p =>
      obtain ⟨code, r₁⟩ := p
      obtain ⟨ds, hds, rfl⟩ := hexNumber_eq_ok_iff.mp hfirst
      by_cases hpair : (0xD800 ≤ code ∧ code ≤ 0xDBFF) ∧ ("\\u" : Text) <+: r₁
      · obtain ⟨hhigh, r₂, rfl⟩ := hpair
        rw [escapedNumber_of_followed hfirst hhigh] at h
        obtain ⟨⟨low, r₃⟩, hlow, hrest⟩ := bind_eq_ok_iff.mp h
        obtain ⟨ds', hds', rfl⟩ := hexNumber_eq_ok_iff.mp hlow
        simp only at hrest
        split at hrest
        · next hrange =>
          obtain ⟨rfl, rfl⟩ := Prod.mk.inj (Except.ok.inj hrest)
          exact .pair hds hds' rfl hhigh (by simpa using hrange)
        · cases hrest
      · rw [escapedNumber_of_alone hfirst hpair] at h
        cases h
        exact .alone hds rfl hpair
  · intro h
    cases h with
    | alone digits text alone =>
      exact escapedNumber_of_alone (hexNumber_eq_ok_iff.mpr ⟨_, digits, text⟩) alone
    | @pair ds ds' r high low digits digits' text hhigh hlow =>
      have hsecond : hexNumber 'u' 4 (ds' ++ r) = .ok (low, r) :=
        hexNumber_eq_ok_iff.mpr ⟨ds', digits', rfl⟩
      rw [escapedNumber_of_followed (hexNumber_eq_ok_iff.mpr ⟨ds, digits, text⟩) hhigh, hsecond]
      exact if_pos (by simpa using hlow)

end EscapedNumber

lemma shortEscape?_eq_some_iff {l c : CodePoint} : shortEscape? l = some c ↔ (l, c) ∈ letters := by
  unfold shortEscape? letters
  split_ifs <;> simp_all [eq_comm]

lemma numberEscape_iff {e : Text} {n : Nat} :
    NumberEscape e n ↔ ∃ (letter : CodePoint) (ds : Text), (letter = 'u' ∨ letter = 'U') ∧
      HexNumeral (width letter) ds n ∧ e = "\\" ++ letter :: ds := by
  constructor
  · intro h
    cases h with
    | short h => exact ⟨'u', _, Or.inl rfl, h, rfl⟩
    | long h => exact ⟨'U', _, Or.inr rfl, h, rfl⟩
  · rintro ⟨letter, ds, rfl | rfl, h, rfl⟩
    · exact .short h
    · exact .long h

lemma ofNat?_eq_some_iff {n : Nat} {c : CodePoint} : CodePoint.ofNat? n = some c ↔ c.val = n := by
  rw [CodePoint.ofNat?]
  split
  · rw [Option.some.injEq, Fin.ext_iff, eq_comm]
  · next h =>
    refine ⟨nofun, ?_⟩
    rintro rfl
    exact absurd c.isLt h

/-- No letter of the grammar stands for a number. -/
lemma not_mem_letters {letter c : CodePoint} (h : letter = 'u' ∨ letter = 'U') :
    (letter, c) ∉ letters := by
  rcases h with rfl | rfl <;> simp [letters]

lemma escape_of_reads {letter c : CodePoint} {t r : Text} (hletter : letter = 'u' ∨ letter = 'U')
    (h : Reads letter t c.val r) : ∃ e : Text, "\\" ++ letter :: t = e ++ r ∧ Escape r e c := by
  generalize hn : c.val = n at h
  cases h with
  | @alone ds r n digits text alone =>
    subst hn
    refine ⟨"\\" ++ letter :: ds, by simp [text], .number ?_ ?_⟩
    · exact numberEscape_iff.mpr ⟨letter, ds, hletter, digits, rfl⟩
    · intro hhigh hshort
      exact alone ⟨isHighSurrogate_iff.mp hhigh, hshort⟩
  | @pair ds ds' r high low digits digits' text hhigh hlow =>
    refine ⟨("\\" ++ letter :: ds) ++ ("\\u" ++ ds'), by simp [text], ?_⟩
    refine .pair (numberEscape_iff.mpr ⟨letter, ds, hletter, digits, rfl⟩) digits' ?_
    exact units_eq_pair_iff.mpr ⟨hhigh, hlow, hn⟩

lemma reads_of_escape {letter c : CodePoint} {t r e : Text} (hletter : letter = 'u' ∨ letter = 'U')
    (htext : "\\" ++ letter :: t = e ++ r) (h : Escape r e c) : Reads letter t c.val r := by
  have hcons : ∀ u : Text, ("\\" ++ u : Text) = CodePoint.ofChar '\\' :: u := fun _ => rfl
  cases h with
  | letter mem =>
    obtain ⟨rfl, -⟩ : letter = _ ∧ _ := by simpa [hcons] using htext
    exact absurd mem (not_mem_letters hletter)
  | number number alone =>
    obtain ⟨letter', ds, -, digits, rfl⟩ := numberEscape_iff.mp number
    obtain ⟨rfl, rfl⟩ : letter = letter' ∧ t = ds ++ r := by simpa [hcons] using htext
    refine .alone digits rfl fun ⟨hhigh, hshort⟩ => ?_
    exact alone (isHighSurrogate_iff.mpr hhigh) hshort
  | pair number digits' units =>
    obtain ⟨letter', ds, -, digits, rfl⟩ := numberEscape_iff.mp number
    obtain ⟨hhigh, hlow, hval⟩ := units_eq_pair_iff.mp units
    obtain ⟨rfl, rfl⟩ : letter = letter' ∧ t = _ := by simpa [hcons] using htext
    rw [hval]
    exact .pair digits digits' (by simp) hhigh hlow

lemma escape_number_iff {letter c : CodePoint} {t r : Text}
    (hletter : letter = 'u' ∨ letter = 'U') :
    escape letter t = .ok (c, r) ↔ Reads letter t c.val r := by
  have hnone : shortEscape? letter = none := by
    rw [Option.eq_none_iff_forall_ne_some]
    exact fun d hd => not_mem_letters hletter (shortEscape?_eq_some_iff.mp hd)
  have hnumber : (letter = 'u' || letter = 'U') = true := by simpa using hletter
  simp only [escape, hnone, if_pos hnumber, bind_eq_ok_iff, Prod.exists, escapedNumber_eq_ok_iff]
  constructor
  · rintro ⟨n, r₁, hreads, h⟩
    split at h
    · next d hd =>
      cases h
      rwa [ofNat?_eq_some_iff.mp hd]
    · split at h <;> cases h
  · intro h
    exact ⟨c.val, r, h, by rw [ofNat?_eq_some_iff.mpr rfl]; rfl⟩

lemma mem_letters_of_escape {l c : CodePoint} {t r e : Text} (hl : ¬ (l = 'u' ∨ l = 'U'))
    (htext : "\\" ++ l :: t = e ++ r) (h : Escape r e c) : (l, c) ∈ letters ∧ t = r := by
  have hcons : ∀ u : Text, ("\\" ++ u : Text) = CodePoint.ofChar '\\' :: u := fun _ => rfl
  cases h with
  | letter mem =>
    obtain ⟨rfl, rfl⟩ : l = _ ∧ t = r := by simpa [hcons] using htext
    exact ⟨mem, rfl⟩
  | number number | pair number =>
    obtain ⟨letter, ds, hletter, -, rfl⟩ := numberEscape_iff.mp number
    obtain ⟨rfl, -⟩ : l = letter ∧ _ := by simpa [hcons] using htext
    exact absurd hletter hl

/-- The reader of escapes takes the escapes of the grammar, in front of what is left. -/
lemma escape_eq_ok_iff {l c : CodePoint} {t r : Text} :
    escape l t = .ok (c, r) ↔ ∃ e : Text, "\\" ++ l :: t = e ++ r ∧ Escape r e c := by
  by_cases hl : l = 'u' ∨ l = 'U'
  · rw [escape_number_iff hl]
    constructor
    · exact escape_of_reads hl
    · rintro ⟨e, he, h⟩
      exact reads_of_escape hl he h
  · constructor
    · intro h
      unfold escape at h
      split at h
      · next d hd =>
        cases h
        exact ⟨_, rfl, .letter (shortEscape?_eq_some_iff.mp hd)⟩
      · rw [if_neg (by simpa using hl)] at h
        cases h
    · rintro ⟨e, he, h⟩
      obtain ⟨hmem, rfl⟩ := mem_letters_of_escape hl he h
      rw [escape, shortEscape?_eq_some_iff.mpr hmem]

/-! ### Faults

Whatever stops the reader of a number or a key is told without a place. -/

lemma exists_fault_of_hexNumber {letter : CodePoint} {width : Nat} {t : Text} {e : PathError}
    (h : hexNumber letter width t = .error e) : ∃ f, e = .fault f ∧ f.offset? = none := by
  rw [hexNumber] at h
  split at h
  · cases h
  · cases h
    exact ⟨_, rfl, rfl⟩

lemma exists_fault_of_escapedNumber {letter : CodePoint} {t : Text} {e : PathError}
    (h : escapedNumber letter t = .error e) : ∃ f, e = .fault f ∧ f.offset? = none := by
  unfold escapedNumber at h
  obtain hfirst | ⟨⟨code, r⟩, -, hrest⟩ := bind_eq_error_iff.mp h
  · exact exists_fault_of_hexNumber hfirst
  · simp only at hrest
    split at hrest
    · split at hrest
      · obtain hsecond | ⟨⟨low, r'⟩, -, hpair⟩ := bind_eq_error_iff.mp hrest
        · exact exists_fault_of_hexNumber hsecond
        · simp only at hpair
          split at hpair
          · cases hpair
          · cases hpair
            exact ⟨_, rfl, rfl⟩
      · cases hrest
    · cases hrest

lemma offset?_of_escape {l : CodePoint} {t : Text} {f : PathFault}
    (h : escape l t = .error (.fault f)) : f.offset? = none := by
  rw [escape] at h
  split at h
  · cases h
  split at h
  · obtain hnumber | ⟨⟨n, r⟩, -, hrest⟩ := bind_eq_error_iff.mp h
    · obtain ⟨_, ⟨⟩, hoffset⟩ := exists_fault_of_escapedNumber hnumber
      exact hoffset
    · simp only at hrest
      split at hrest
      · cases hrest
      split at hrest
      · cases hrest
      · cases hrest
        rfl
  · cases h
    rfl

lemma offset?_of_quotedKey {t : Text} {f : PathFault}
    (h : quotedKey t = .error (.fault f)) : f.offset? = none := by
  fun_induction quotedKey t with
  | case1 =>
    cases h
    rfl
  | case2 => cases h
  | case3 =>
    cases h
    rfl
  | case4 l t e hescape =>
    cases h
    exact offset?_of_escape hescape
  | case5 l t d r _ _ ih => exact ih (map_eq_error_iff.mp h)
  | case6 c t _ _ ih => exact ih (map_eq_error_iff.mp h)

/-! ### Whole keys -/

lemma quotedKey_mark (r : Text) : quotedKey ("\"" ++ r) = .ok ([], r) := by
  have hcons : ("\"" ++ r : Text) = CodePoint.ofChar '"' :: r := rfl
  rw [hcons, quotedKey.eq_def]
  exact if_pos rfl

lemma quotedKey_plain {c : CodePoint} (mark : c ≠ '"') (backslash : c ≠ '\\') (t : Text) :
    quotedKey (c :: t) = (quotedKey t).map fun (k, r) => (c :: k, r) := by
  rw [quotedKey.eq_def]
  simp only [if_neg mark, if_neg backslash]

lemma quotedKey_escape {l c : CodePoint} {t r : Text} (h : escape l t = .ok (c, r)) :
    quotedKey ("\\" ++ l :: t) = (quotedKey r).map fun (k, r) => (c :: k, r) := by
  have hcons : ("\\" ++ l :: t : Text) = CodePoint.ofChar '\\' :: l :: t := rfl
  rw [hcons, quotedKey.eq_def]
  simp only [CodePoint.ofChar_inj, Char.reduceEq, if_false, if_true]
  split
  · next e he => rw [h] at he; cases he
  · next d r' hd =>
    rw [h] at hd
    cases hd
    rfl

/-- What begins otherwise does not complete a short escape in front of it. -/
lemma isPrefix_short_append_cons_iff {m : CodePoint} {t r : Text} (hm : m ≠ 'u')
    (hr : ¬ ("\\u" : Text) <+: m :: r) :
    ("\\u" : Text) <+: t ++ m :: r ↔ ("\\u" : Text) <+: t := by
  rcases t with _ | ⟨b, _ | ⟨u, t⟩⟩
  · simpa [Text.ofString] using hr
  · rw [List.singleton_append, isPrefix_short_iff]
    simp [Text.ofString, hm]
  · rw [List.cons_append, List.cons_append, isPrefix_short_iff, isPrefix_short_iff]

/-- The closing mark begins no escape. -/
lemma isPrefix_short_append_iff {t r : Text} :
    ("\\u" : Text) <+: t ++ ("\"" ++ r) ↔ ("\\u" : Text) <+: t :=
  isPrefix_short_append_cons_iff (m := '"') (by decide) (by simp [Text.ofString])

/-- All that matters behind an escape is whether a short one begins there. -/
lemma Escape.congr {t t' e : Text} {c : CodePoint} (h : Escape t e c)
    (hshort : ("\\u" : Text) <+: t' → ("\\u" : Text) <+: t) : Escape t' e c := by
  cases h with
  | letter mem => exact .letter mem
  | number number alone => exact .number number fun hhigh h' => alone hhigh (hshort h')
  | pair number digits units => exact .pair number digits units

lemma Escape.exists_letter {t e : Text} {c : CodePoint} (h : Escape t e c) :
    ∃ (l : CodePoint) (u : Text), e = "\\" ++ l :: u := by
  cases h with
  | letter mem => exact ⟨_, [], rfl⟩
  | number number | pair number =>
    obtain ⟨l, u, -, -, rfl⟩ := numberEscape_iff.mp number
    exact ⟨l, _, rfl⟩

lemma Escape.quotedKey_eq {t e : Text} {c : CodePoint} (h : Escape t e c) :
    quotedKey (e ++ t) = (quotedKey t).map fun (k, r) => (c :: k, r) := by
  obtain ⟨l, u, rfl⟩ := h.exists_letter
  have htext : ("\\" ++ l :: u ++ t : Text) = "\\" ++ l :: (u ++ t) := by simp
  rw [htext]
  exact quotedKey_escape (escape_eq_ok_iff.mpr ⟨_, htext.symm, h⟩)

/-- What is spelled is read in front of a rest that completes no short escape. -/
lemma Spells.quotedKey_append {t k r : Text} (h : Spells t k)
    (hr : ∀ {u : Text}, ("\\u" : Text) <+: u ++ r → ("\\u" : Text) <+: u) :
    quotedKey (t ++ r) = (quotedKey r).map fun (k', r') => (k ++ k', r') := by
  induction h with
  | nil => cases h : quotedKey r <;> simp [h, Except.map]
  | plain mark backslash _ ih =>
    rw [List.cons_append, quotedKey_plain mark backslash, ih]
    cases quotedKey r <;> rfl
  | @escape e t k c escape _ ih =>
    have hread : Escape (t ++ r) e c := escape.congr hr
    rw [List.append_assoc, hread.quotedKey_eq, ih]
    cases quotedKey r <;> rfl

/-- A key that is spelled is read up to the closing mark. -/
lemma Spells.quotedKey_eq {t k : Text} (h : Spells t k) (r : Text) :
    quotedKey (t ++ ("\"" ++ r)) = .ok (k, r) := by
  rw [h.quotedKey_append isPrefix_short_append_iff.mp, quotedKey_mark]
  exact congrArg (fun k => Except.ok (k, r)) (List.append_nil k)

/-- What is read up to the closing mark spells the key. -/
lemma spells_of_quotedKey {t k r : Text} (h : quotedKey t = .ok (k, r)) :
    ∃ s, t = s ++ ("\"" ++ r) ∧ Spells s k := by
  fun_induction quotedKey t generalizing k with
  | case1 => cases h
  | case2 t =>
    cases h
    exact ⟨[], rfl, .nil⟩
  | case3 => cases h
  | case4 => cases h
  | case5 l t d r' hescape _ ih =>
    obtain ⟨⟨k', r''⟩, hk, h⟩ := map_eq_ok_iff.mp h
    cases h
    obtain ⟨s, rfl, hs⟩ := ih hk
    obtain ⟨e, he, hread⟩ := escape_eq_ok_iff.mp hescape
    refine ⟨e ++ s, ?_, .escape (hread.congr isPrefix_short_append_iff.mpr) hs⟩
    rw [List.append_assoc]
    exact he
  | case6 c t mark backslash ih =>
    obtain ⟨⟨k', r'⟩, hk, h⟩ := map_eq_ok_iff.mp h
    cases h
    obtain ⟨s, rfl, hs⟩ := ih hk
    exact ⟨c :: s, rfl, .plain mark backslash hs⟩

end Path

end Settle

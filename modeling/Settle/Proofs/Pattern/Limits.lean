import Settle.Proofs.Path.Limits
import Settle.Proofs.Pattern.Exact

/-!
# Numbers that no regular expression can hold

Two numbers in a regular expression have limits beyond which no fault is reported: a count of
repetitions fits in an unsigned 32-bit word, its greatest value left out, and the number of an
escape in a signed one. Where the compiler stops for a number that is too large, such a number
stands in the text.
-/

namespace Settle.Pattern

/-! ### Texts with such a number -/

/-- A count of repetitions that is too large, though not too long to be read. -/
structure HugeCount (ds : Text) : Prop where
  digits : ∀ d ∈ ds, d.isDigit
  length : ds.length ≤ 4300
  huge   : 4294967295 ≤ Decimal.value ds

/-- What stands between braces: one count that is too large, or two of which one is. -/
inductive HugeBounds : Text → Prop where
  | both {ds : Text} (huge : HugeCount ds) : HugeBounds ds
  | least {ds hi : Text} (huge : HugeCount ds) (digits : ∀ d ∈ hi, d.isDigit) :
      HugeBounds (ds ++ "," ++ hi)
  | most {lo ds : Text} (digits : ∀ d ∈ lo, d.isDigit) (huge : HugeCount ds) :
      HugeBounds (lo ++ "," ++ ds)

/-- Somewhere in a text stands a number that is too large. -/
inductive HoldsHuge : Text → Prop where
  | bounds {before bs after : Text} (huge : HugeBounds bs) :
      HoldsHuge (before ++ "\x7b" ++ bs ++ "\x7d" ++ after)
  | escape {before ds after : Text} {n : Nat} (digits : Path.HexNumeral 8 ds n)
      (huge : 0x7fffffff < n) : HoldsHuge (before ++ "\\U" ++ ds ++ after)

/-! ### How much has been read -/

/-- A backslash in front of a code point. -/
abbrev backslashed (c : CodePoint) : Symbol := ['\\', c]

/-- A code point, or a backslash and one. -/
inductive IsSymbol : Symbol → Prop where
  | plain (c : CodePoint) : IsSymbol [c]
  | escaped (c : CodePoint) : IsSymbol (backslashed c)

/-- What is left behind the part of a text that has been read. -/
structure At (t before : Text) (s : Cursor) : Prop where
  text    : t = before ++ s.left.flatMap Prod.snd
  symbols : ∀ e ∈ s.left, IsSymbol e.2

/-- Some part of a text has been read. -/
def Within (t : Text) (s : Cursor) : Prop := ∃ before, At t before s

/-- Some part of a text has been read, of which a symbol is the last. -/
def Behind (t : Text) (sym : Symbol) (s : Cursor) : Prop :=
  IsSymbol sym ∧ ∃ before, At t (before ++ sym) s

lemma At.within {t before : Text} {s : Cursor} (h : At t before s) : Within t s := ⟨before, h⟩

lemma Behind.within {t : Text} {sym : Symbol} {s : Cursor} (h : Behind t sym s) : Within t s :=
  let ⟨_, _, h⟩ := h
  h.within

lemma At.of_left {t before : Text} {s s' : Cursor} (h : At t before s) (hleft : s'.left = s.left) :
    At t before s' := ⟨by rw [hleft, h.text.symm], by rw [hleft]; exact h.symbols⟩

lemma Within.of_left {t : Text} {s s' : Cursor} (h : Within t s) (hleft : s'.left = s.left) :
    Within t s' :=
  let ⟨before, h⟩ := h
  ⟨before, h.of_left hleft⟩

lemma At.tail {t before : Text} {s : Cursor} {sym : Symbol} (h : At t before s)
    (hnext : s.next? = some sym) :
    IsSymbol sym ∧ At t (before ++ sym) { s with left := s.left.tail } := by
  obtain ⟨e, left, hleft, rfl⟩ : ∃ e left, s.left = e :: left ∧ e.2 = sym := by
    cases hs : s.left with
    | nil => simp [Cursor.next?, hs] at hnext
    | cons e left => exact ⟨e, left, rfl, by simpa [Cursor.next?, hs] using hnext⟩
  obtain ⟨hsym, hsymbols⟩ := List.forall_mem_cons.mp (hleft ▸ h.symbols)
  exact ⟨hsym, by simp [h.text, hleft], by simpa [hleft] using hsymbols⟩

lemma at_symbolsFrom (n : Nat) (t : Text) {s : Cursor} (h : s.left = symbolsFrom n t) :
    At t [] s := by
  suffices hall : (symbolsFrom n t).flatMap Prod.snd = t ∧ ∀ e ∈ symbolsFrom n t, IsSymbol e.2 from
    ⟨by rw [h, hall.1, List.nil_append], by rw [h]; exact hall.2⟩
  clear h
  fun_induction symbolsFrom n t with
  | case1 => simp
  | case2 n c => simpa using IsSymbol.plain c
  | case3 n d t ih => exact ⟨by simp [ih.1], List.forall_mem_cons.mpr ⟨.escaped d, ih.2⟩⟩
  | case4 n c d t hc ih => exact ⟨by simp [ih.1], List.forall_mem_cons.mpr ⟨.plain c, ih.2⟩⟩

namespace Reader

/-! ### Readers between two conditions -/

section

variable {α β : Type} {t : Text} {P P' : Cursor → Prop} {Q Q' : α → Cursor → Prop} {x : Reader α}

/-- From where one condition holds, a reader comes to where another does, and stops for a number
only if there is one that is too large. -/
def Reads (t : Text) (P : Cursor → Prop) (x : Reader α) (Q : α → Cursor → Prop) : Prop :=
  ∀ s, P s → (∀ a s', x s = .ok (a, s') → Q a s') ∧ (x s = .error .hugeNumber → HoldsHuge t)

/-- A reader takes what is in front of it. -/
abbrev Keeps (t : Text) (x : Reader α) : Prop := Reads t (Within t) x fun _ => Within t

lemma Reads.of_imp (h : Reads t P x Q) (hP : ∀ s, P' s → P s) (hQ : ∀ a s, Q a s → Q' a s) :
    Reads t P' x Q' := by
  intro s hs
  obtain ⟨hok, herror⟩ := h s (hP s hs)
  exact ⟨fun a s' ha => hQ a s' (hok a s' ha), herror⟩

lemma Reads.from (h : Reads t P x Q) (hP : ∀ s, P' s → P s) : Reads t P' x Q :=
  h.of_imp hP fun _ _ hq => hq

/-- What holds of no reader's place is known at once. -/
lemma Reads.of_and {p : Prop} (h : p → Reads t P x Q) : Reads t (fun s => p ∧ P s) x Q :=
  fun s hs => h hs.1 s hs.2

lemma Reads.of_and' {p : Prop} (h : p → Reads t P x Q) : Reads t (fun s => P s ∧ p) x Q :=
  fun s hs => h hs.2 s hs.1

lemma reads_pure (a : α) (h : ∀ s, P s → Q a s) : Reads t P (pure a) Q := by
  intro s hs
  refine ⟨fun b s' hb => ?_, fun hb => ?_⟩
  · cases hb
    exact h s hs
  · cases hb

lemma keeps_pure (a : α) : Keeps t (pure a : Reader α) := reads_pure a fun _ hs => hs

lemma Reads.bind {f : α → Reader β} {R : β → Cursor → Prop} (hx : Reads t P x Q)
    (hf : ∀ a, Reads t (Q a) (f a) R) : Reads t P (x >>= f) R := by
  intro s hs
  obtain ⟨hok, herror⟩ := hx s hs
  have hbind : (x >>= f) s = x s >>= fun r => f r.1 r.2 := rfl
  rw [hbind]
  cases hxs : x s with
  | error e =>
    refine ⟨fun b s' hb => ?_, fun hb => ?_⟩
    · cases hb
    · cases hb
      exact herror hxs
  | ok r => exact hf r.1 r.2 (hok r.1 r.2 hxs)

lemma reads_fail {f : Fault} {back : Nat} : Reads t P (fail f back : Reader α) Q := by
  intro s _
  refine ⟨fun a s' ha => ?_, fun ha => ?_⟩
  · cases ha
  · cases ha

lemma reads_get : Reads t P (get : Reader Cursor) fun here s => P here ∧ P s := by
  intro s hs
  refine ⟨fun a s' ha => ?_, fun ha => ?_⟩
  · cases ha
    exact ⟨hs, hs⟩
  · cases ha

lemma reads_set {s' : Cursor} (h : Within t s') :
    Reads t P (set s' : Reader PUnit) fun _ => Within t := by
  intro s _
  refine ⟨fun a s₁ ha => ?_, fun ha => ?_⟩
  · cases ha
    exact h
  · cases ha

lemma keeps_get : Keeps t (get : Reader Cursor) :=
  reads_get.of_imp (fun _ hs => hs) fun _ _ hs => hs.2

lemma keeps_modify {g : Cursor → Cursor} (h : ∀ s, (g s).left = s.left) :
    Keeps t (modify g : Reader PUnit) := by
  intro s hs
  refine ⟨fun a s' ha => ?_, fun ha => ?_⟩
  · cases ha
    exact hs.of_left (h s)
  · cases ha

lemma keeps_modify_bind {g : Cursor → Cursor} {next : Unit → Reader α}
    (hg : ∀ s, (g s).left = s.left) (h : ∀ u, Keeps t (next u)) : Keeps t (modify g >>= next) :=
  (keeps_modify hg).bind h

lemma reads_dite {c : Prop} [Decidable c] {y : Reader α} (hx : c → Reads t P x Q)
    (hy : ¬ c → Reads t P y Q) : Reads t P (if c then x else y) Q := by
  split
  · next hc => exact hx hc
  · next hc => exact hy hc

lemma reads_ite {c : Prop} [Decidable c] {y : Reader α} (hx : Reads t P x Q) (hy : Reads t P y Q) :
    Reads t P (if c then x else y) Q := reads_dite (fun _ => hx) fun _ => hy

/-- A reader that goes on unless something is wrong. -/
lemma reads_unless {c : Prop} [Decidable c] {f : Fault} {back : Nat} {next : Unit → Reader α}
    (h : ∀ u, Reads t P (next u) Q) : Reads t P (if c then fail f back >>= next else next ()) Q :=
  reads_ite (reads_fail.bind h) (h ())

/-- What holds from every place where a text may have been read to. -/
lemma Reads.of_at (h : ∀ before, Reads t (At t before) x Q) : Reads t (Within t) x Q :=
  fun s ⟨before, hs⟩ => h before s hs

end

/-! ### Symbols -/

section Symbols

variable {t before : Text}

lemma reads_peek? {P : Cursor → Prop} :
    Reads t P peek? fun sym? s => P s ∧ s.next? = sym? := by
  intro s hs
  refine ⟨fun a s' ha => ?_, fun ha => ?_⟩
  · cases ha
    exact ⟨hs, rfl⟩
  · cases ha

lemma keeps_peek? : Keeps t peek? :=
  reads_peek?.of_imp (fun _ hs => hs) fun _ _ hs => hs.1

lemma reads_offset {P : Cursor → Prop} : Reads t P offset fun _ => P := by
  intro s hs
  refine ⟨fun a s' ha => ?_, fun ha => ?_⟩
  · cases ha
    exact hs
  · cases ha

lemma keeps_flags (scope : Scope) : Keeps t (flags scope) :=
  keeps_get.bind fun _ => keeps_pure _

lemma settle_eq_ok {s s' : Cursor} (h : settle s = .ok s') : s' = s := by
  unfold settle at h
  split at h
  · split at h
    · cases h
    · exact (Except.ok.inj h).symm
  · exact (Except.ok.inj h).symm

lemma settle_ne_hugeNumber (s : Cursor) : settle s ≠ .error .hugeNumber := by
  unfold settle
  split
  · split <;> simp
  · simp

/-- A symbol that comes next is taken. -/
lemma reads_take?_of_next {sym : Symbol} :
    Reads t (fun s => At t before s ∧ s.next? = some sym) take? fun sym? s =>
      sym? = some sym ∧ IsSymbol sym ∧ At t (before ++ sym) s := by
  rintro s ⟨hs, hnext⟩
  refine ⟨fun a s' ha => ?_, fun ha => ?_⟩
  · obtain ⟨s₁, hsettle, heq⟩ := map_eq_ok_iff.mp ha
    obtain ⟨rfl, rfl⟩ := Prod.mk.inj heq
    rw [settle_eq_ok hsettle]
    exact ⟨hnext, hs.tail hnext⟩
  · exact absurd (map_eq_error_iff.mp ha) (settle_ne_hugeNumber _)

lemma reads_take? : Reads t (Within t) take? fun sym? s =>
    Within t s ∧ ∀ sym, sym? = some sym → Behind t sym s := by
  rintro s ⟨before, hs⟩
  cases hnext : s.next? with
  | some sym =>
    obtain ⟨hok, herror⟩ := reads_take?_of_next s ⟨hs, hnext⟩
    refine ⟨fun a s' ha => ?_, herror⟩
    obtain ⟨rfl, hsym, hs'⟩ := hok a s' ha
    exact ⟨hs'.within, fun _ h => Option.some.inj h ▸ ⟨hsym, before, hs'⟩⟩
  | none =>
    have hleft : s.left = [] := by simpa [Cursor.next?] using hnext
    refine ⟨fun a s' ha => ?_, fun ha => ?_⟩
    · obtain ⟨s₁, hsettle, heq⟩ := map_eq_ok_iff.mp ha
      obtain ⟨rfl, rfl⟩ := Prod.mk.inj heq
      rw [settle_eq_ok hsettle]
      exact ⟨⟨before, hs.of_left (by simp [hleft])⟩, by simp [hnext]⟩
    · exact absurd (map_eq_error_iff.mp ha) (settle_ne_hugeNumber _)

lemma keeps_take? : Keeps t take? := reads_take?.of_imp (fun _ hs => hs) fun _ _ hs => hs.1

/-- What is accepted has been read. -/
lemma reads_accept (c : Char) : Reads t (At t before) (accept c) fun ok s =>
    At t (before ++ if ok then [CodePoint.ofChar c] else []) s := by
  refine reads_peek?.bind fun sym? => ?_
  split
  · next hsym =>
    subst hsym
    exact reads_take?_of_next.bind fun _ => reads_pure _ fun _ hs => hs.2.2
  · exact reads_pure _ fun _ hs => by simpa using hs.1

lemma reads_ite_accepted {α : Type} {c : Char} {ok : Bool} {x y : Reader α}
    {Q : α → Cursor → Prop} (hx : Reads t (At t (before ++ [CodePoint.ofChar c])) x Q)
    (hy : Reads t (At t before) y Q) :
    Reads t (fun s => At t (before ++ if ok then [CodePoint.ofChar c] else []) s)
      (if ok = true then x else y) Q := by
  cases ok with
  | true => exact hx
  | false => simpa using hy

lemma keeps_accept (c : Char) : Keeps t (accept c) :=
  .of_at fun _ => (reads_accept c).of_imp (fun _ hs => hs) fun _ _ hs => hs.within

/-- At most so many code points of a class have been read. -/
lemma reads_takeUpTo (p : CodePoint → Bool) (n : Nat) :
    Reads t (At t before) (takeUpTo p n) fun ds s =>
      At t (before ++ ds) s ∧ (∀ d ∈ ds, p d) ∧ ds.length ≤ n := by
  induction n generalizing before with
  | zero => exact reads_pure _ fun _ hs => by simpa using hs
  | succ n ih =>
    have hnone : Reads t (At t before) (pure [] : Reader Text) fun ds s =>
        At t (before ++ ds) s ∧ (∀ d ∈ ds, p d) ∧ ds.length ≤ n + 1 :=
      reads_pure _ fun _ hs => by simpa using hs
    refine reads_peek?.bind fun sym? => ?_
    split
    · next c =>
      refine reads_dite (fun hc => ?_) fun _ => hnone.from fun _ hs => hs.1
      refine reads_take?_of_next.bind fun sym? => Reads.from ?_ fun _ hs => hs.2.2
      refine ih.bind fun ds => reads_pure _ fun s hs => ?_
      obtain ⟨hs, hdigits, hlength⟩ := hs
      exact ⟨by simpa using hs, List.forall_mem_cons.mpr ⟨hc, hdigits⟩, Nat.succ_le_succ hlength⟩
    · exact hnone.from fun _ hs => hs.1

lemma keeps_takeUpTo (p : CodePoint → Bool) (n : Nat) : Keeps t (takeUpTo p n) :=
  .of_at fun _ => (reads_takeUpTo p n).of_imp (fun _ hs => hs) fun _ _ hs => hs.1.within

lemma reads_takeAll (p : CodePoint → Bool) :
    Reads t (At t before) (takeAll p) fun ds s =>
      At t (before ++ ds) s ∧ ∀ d ∈ ds, p d = true :=
  reads_get.bind fun _ => (reads_takeUpTo p _).of_imp (fun _ hs => hs.2) fun _ _ hs =>
    ⟨hs.1, hs.2.1⟩

lemma keeps_nameUntil (terminator : Char) (what : Text) (n : Nat) (seen : List Symbol) :
    Keeps t (nameUntil terminator what n seen) := by
  induction n generalizing seen with
  | zero => exact reads_fail
  | succ n ih =>
    refine keeps_take?.bind fun sym? => ?_
    split
    · exact reads_ite reads_fail reads_fail
    · exact reads_ite (reads_ite reads_fail (keeps_pure _)) (ih _)

lemma keeps_name (terminator : Char) (what : Text) : Keeps t (name terminator what) :=
  keeps_get.bind fun _ => keeps_nameUntil _ _ _ _

end Symbols

/-! ### Bounds of repetitions -/

section Bounds

variable {t : Text}

lemma hugeCount_of_bound {ds : Text} (hdigits : ∀ d ∈ ds, d.isDigit)
    (h : bound ds = .error .hugeNumber) : HugeCount ds := by
  unfold bound at h
  split at h
  · cases h
  · next hlength =>
    split at h
    · next huge => exact ⟨hdigits, Nat.not_lt.mp hlength, huge⟩
    · cases h

lemma reads_bound {P : Cursor → Prop} {ds : Text} (hdigits : ∀ d ∈ ds, d.isDigit)
    (h : ∀ s, P s → HugeCount ds → HoldsHuge t) :
    Reads t P (liftM (bound ds)) fun _ => P := by
  intro s hs
  have hlift : (liftM (bound ds) : Reader Nat) s = bound ds >>= fun n => .ok (n, s) := rfl
  refine ⟨fun n s' hn => ?_, fun hn => h s hs (hugeCount_of_bound hdigits ?_)⟩
  · obtain ⟨m, -, heq⟩ := bind_eq_ok_iff.mp (hlift ▸ hn)
    cases heq
    exact hs
  · obtain hbound | ⟨m, -, heq⟩ := bind_eq_error_iff.mp (hlift ▸ hn)
    · exact hbound
    · cases heq

/-- Bounds are read behind the opening brace; if there are none, nothing is taken. -/
lemma reads_bounds? {before : Text} :
    Reads t (At t (before ++ "\x7b")) bounds? fun _ => Within t := by
  unfold bounds?
  refine reads_get.bind fun here => Reads.of_and fun hhere => reads_peek?.bind fun sym? => ?_
  refine reads_ite (reads_pure _ fun _ hs => hs.1.within) (Reads.from ?_ fun _ hs => hs.1)
  refine (reads_takeAll _).bind fun lo => .of_and' fun hlo => ?_
  refine (reads_accept ',').bind fun comma => ?_
  extract_lets close
  -- behind the digits, what is between the braces is too large if one of the counts is
  have hclose : ∀ hi bs, (∀ d ∈ hi, d.isDigit) → (HugeCount lo → HugeBounds bs) →
      (HugeCount hi → HugeBounds bs) →
      Reads t (At t (before ++ "\x7b" ++ bs)) (close hi) fun _ => Within t := by
    intro hi bs hdigits hleast hmost
    refine (reads_accept '\x7d').bind fun closed => reads_ite_accepted ?_ ?_
    swap
    · exact (reads_set hhere.within).bind fun _ => keeps_pure _
    extract_lets rest
    have huge : ∀ s, At t (before ++ "\x7b" ++ bs ++ "\x7d") s → HugeBounds bs → HoldsHuge t :=
      fun s hs h => hs.text ▸ .bounds h
    have hrest : ∀ least, Reads t (At t (before ++ "\x7b" ++ bs ++ "\x7d")) (rest least)
        fun _ => Within t := by
      intro least
      refine reads_ite (reads_pure _ fun _ hs => hs.within) ?_
      refine (reads_bound hdigits fun s hs h => huge s hs (hmost h)).bind fun most => ?_
      extract_lets last
      have hlast : ∀ u, Keeps t (last u) := fun _ => keeps_pure _
      refine Reads.from ?_ fun _ hs => hs.within
      exact reads_ite (reads_offset.bind fun _ => reads_fail.bind hlast) (hlast ())
    refine reads_ite ((reads_pure 0 fun _ hs => hs).bind hrest) ?_
    exact (reads_bound hlo fun s hs h => huge s hs (hleast h)).bind hrest
  refine reads_ite_accepted ?_ ?_
  · refine (reads_takeAll _).bind fun hi => .of_and' fun hhi => ?_
    have hbounds := hclose hi (lo ++ "," ++ hi) hhi (.least · hhi) (.most hlo)
    rwa [← List.append_assoc, ← List.append_assoc] at hbounds
  · exact hclose lo lo hlo .both .both

end Bounds

end Reader

/-! ### Escapes -/

namespace Escaped

open Reader

variable {t : Text}

lemma reads_numbered {P : Cursor → Prop} {e : Text} {n : Nat} (hP : ∀ s, P s → Within t s)
    (h : ∀ s, P s → 0x7fffffff < n → HoldsHuge t) :
    Reads t P (numbered e n) fun _ => Within t := by
  unfold numbered
  split
  · exact reads_pure _ hP
  · split
    · next huge =>
      intro s hs
      refine ⟨fun a s' ha => ?_, fun _ => h s hs huge⟩
      cases ha
    · exact reads_fail

lemma keeps_numbered {e : Text} {n : Nat} (h : n ≤ 0x7fffffff) : Keeps t (numbered e n) :=
  reads_numbered (fun _ hs => hs) fun _ _ huge => absurd huge (Nat.not_lt.mpr h)

/-- Only eight digits can number what is too large. -/
lemma reads_hexadecimal {before e : Text} {width : Nat}
    (hwidth : width ≤ 4 ∨ width = 8 ∧ e = "\\U") :
    Reads t (At t (before ++ e)) (hexadecimal e width) fun _ => Within t := by
  refine (reads_takeUpTo _ _).bind fun ds => .of_and' fun hds => ?_
  obtain ⟨hdigits, -⟩ := hds
  refine reads_dite (fun _ => reads_fail) fun hlength => ?_
  have hnumeral : Path.HexNumeral width ds (Text.hexValue ds) :=
    ⟨not_not.mp hlength, hdigits, (Text.hexValue_eq_number ds).symm⟩
  refine reads_numbered (fun _ hs => hs.within) fun s hs huge => ?_
  have hlt : Text.hexValue ds < 16 ^ width := hnumeral.lt
  rcases hwidth with hwidth | ⟨rfl, rfl⟩
  · have hle : 16 ^ width ≤ 16 ^ 4 := Nat.pow_le_pow_right (by decide) hwidth
    omega
  · exact hs.text ▸ .escape hnumeral huge

/-- Octal digits number small code points only. -/
lemma octalValue_lt {ds : Text} (h : ∀ d ∈ ds, isOctal d) : octalValue ds < 8 ^ ds.length := by
  have hdigit : ∀ d ∈ ds, d.val - '0'.toNat < 8 := by
    intro d hd
    have hzero : '0'.toNat = 0x30 := rfl
    have hseven : '7'.toNat = 0x37 := rfl
    have hoctal := h d hd
    simp only [isOctal, CodePoint.between, hzero, hseven, Bool.and_eq_true, decide_eq_true_eq]
      at hoctal
    omega
  rw [octalValue, Text.foldl_eq_number 8 fun d => d.val - '0'.toNat]
  exact Text.number_lt 8 _ (by decide) hdigit

lemma keeps_octal (e : Text) : Keeps t (octal e) :=
  reads_dite (fun _ => reads_fail) fun h => keeps_numbered (by omega)

lemma keeps_named [CharacterNames] (e : Text) : Keeps t (named e) := by
  refine (keeps_accept _).bind fun _ => reads_ite ?_ reads_fail
  refine (keeps_name _ _).bind fun name => reads_ite reads_fail ?_
  split
  · exact keeps_pure _
  · exact reads_fail

lemma reads_byNumber? [CharacterNames] {before : Text} {c : CodePoint} {r : Reader Escaped}
    (h : byNumber? (backslashed c) c = some r) :
    Reads t (At t (before ++ backslashed c)) r fun _ => Within t := by
  unfold byNumber? at h
  split at h
  · cases h
    exact reads_hexadecimal (Or.inl (by decide : 2 ≤ 4))
  split at h
  · cases h
    exact reads_hexadecimal (Or.inl (by decide : 4 ≤ 4))
  split at h
  · next hc =>
    subst hc
    cases h
    exact reads_hexadecimal (Or.inr ⟨rfl, rfl⟩)
  split at h
  · cases h
    exact (keeps_named _).from fun _ hs => hs.within
  · cases h

lemma keeps_checkLookBehind (group : Nat) : Keeps t (checkLookBehind group) := by
  refine keeps_get.bind fun s => ?_
  split
  · exact keeps_pure _
  · exact reads_ite reads_fail (reads_ite reads_fail (keeps_pure _))

lemma keeps_reference (e : Text) (group : Nat) : Keeps t (reference e group) := by
  refine keeps_get.bind fun s => reads_ite reads_fail ?_
  split
  · exact reads_fail
  · exact (keeps_checkLookBehind _).bind fun _ => keeps_pure _

lemma keeps_digits (e : Symbol) (c : CodePoint) : Keeps t (digits e c) := by
  refine (keeps_takeUpTo _ _).bind fun more => ?_
  split
  · exact keeps_reference _ _
  · extract_lets e' rest
    have hrest : ∀ third, Keeps t (rest third) := fun third =>
      reads_ite (keeps_reference _ _) (keeps_octal _)
    exact reads_ite ((keeps_takeUpTo _ _).bind hrest) ((keeps_pure _).bind hrest)

lemma keeps_plain (e : Text) (c : CodePoint) : Keeps t (plain e c) :=
  reads_ite reads_fail (keeps_pure _)

/-- An escape is read behind its letter. -/
lemma reads_inSet [CharacterNames] {before : Text} {c : CodePoint} :
    Reads t (At t (before ++ backslashed c)) (inSet (backslashed c) c) fun _ => Within t := by
  unfold inSet
  split
  · exact reads_pure _ fun _ hs => hs.within
  · exact reads_pure _ fun _ hs => hs.within
  · next h _ _ => exact reads_byNumber? h
  · refine Reads.from ?_ fun _ hs => hs.within
    refine reads_ite ((keeps_takeUpTo _ _).bind fun _ => keeps_octal _) ?_
    exact reads_ite reads_fail (keeps_plain _ _)

lemma reads_inPattern [CharacterNames] {before : Text} {ascii : Bool} {c : CodePoint} :
    Reads t (At t (before ++ backslashed c)) (inPattern ascii (backslashed c) c)
      fun _ => Within t := by
  unfold inPattern
  split
  · exact reads_pure _ fun _ hs => hs.within
  · exact reads_pure _ fun _ hs => hs.within
  · exact reads_pure _ fun _ hs => hs.within
  · next h _ _ _ => exact reads_byNumber? h
  · refine reads_dite (fun hc => ?_) fun _ => Reads.from ?_ fun _ hs => hs.within
    · refine (reads_takeUpTo _ _).bind fun ds => .of_and' fun hds => ?_
      obtain ⟨hdigits, hlength⟩ := hds
      subst hc
      have hoctal : ∀ d ∈ (CodePoint.ofChar '0' :: ds), isOctal d :=
        List.forall_mem_cons.mpr ⟨by decide, hdigits⟩
      have hlt : octalValue (CodePoint.ofChar '0' :: ds) < 8 ^ 3 :=
        (octalValue_lt hoctal).trans_le
          (Nat.pow_le_pow_right (by decide) (Nat.succ_le_succ hlength))
      have hnumbered := keeps_numbered (e := backslashed '0') (t := t) (hlt.le.trans (by decide))
      exact hnumbered.from fun _ hs => hs.within
    · exact reads_ite (keeps_digits _ _) (keeps_plain _ _)

end Escaped

namespace Reader

/-! ### Sets, flags and groups -/

variable {t : Text}

lemma reads_setEntry [CharacterNames] {sym : Symbol} :
    Reads t (Behind t sym) (setEntry sym) fun _ => Within t := by
  rintro s ⟨hsym, before, hs⟩
  cases hsym with
  | plain c => exact reads_pure _ (fun _ hs => hs.within) s hs
  | escaped c =>
    have hread : Reads t (At t (before ++ backslashed c)) (setEntry (backslashed c))
        fun _ => Within t := by
      refine Escaped.reads_inSet.bind fun e => ?_
      split
      all_goals exact keeps_pure _
    exact hread s hs

lemma keeps_setEntries [CharacterNames] (start fuel : Nat) (seen : List Entry) :
    Keeps t (setEntries start fuel seen) := by
  induction fuel generalizing seen with
  | zero => exact keeps_pure _
  | succ fuel ih =>
    refine reads_take?.bind fun this? => ?_
    split
    · exact (reads_offset.bind fun _ => reads_fail).from fun _ hs => hs.1
    · next this =>
      refine reads_ite (reads_pure _ fun _ hs => hs.1) ?_
      refine Reads.bind (reads_setEntry.from fun _ hs => hs.2 this rfl) fun first => ?_
      refine (keeps_accept _).bind fun _ => reads_ite ?_ (ih _)
      refine reads_take?.bind fun that? => ?_
      split
      · exact (reads_offset.bind fun _ => reads_fail).from fun _ hs => hs.1
      · next that =>
        refine reads_ite (reads_pure _ fun _ hs => hs.1) ?_
        refine Reads.bind (reads_setEntry.from fun _ hs => hs.2 that rfl) fun second => ?_
        dsimp only
        split
        · exact reads_ite reads_fail (ih _)
        · exact reads_fail

lemma keeps_charSet [CharacterNames] (mode : Mode) : Keeps t (charSet mode) := by
  refine reads_offset.bind fun _ => (keeps_accept _).bind fun _ => keeps_get.bind fun _ => ?_
  refine (keeps_setEntries _ _ _).bind fun entries => ?_
  split
  · exact keeps_pure _
  · exact keeps_pure _

lemma keeps_greed : Keeps t greed := by
  refine (keeps_accept _).bind fun _ => reads_ite (keeps_pure _) ?_
  exact (keeps_accept _).bind fun _ => reads_ite (keeps_pure _) (keeps_pure _)

lemma keeps_repeatLast (start least : Nat) (most? : Option Nat) (row : List Item) :
    Keeps t (repeatLast start least most? row) := by
  unfold repeatLast
  split
  · exact reads_offset.bind fun _ => reads_fail
  · exact reads_offset.bind fun _ => reads_fail
  · exact reads_offset.bind fun _ => reads_fail
  · exact keeps_greed.bind fun _ => keeps_pure _

lemma keeps_comment (start fuel : Nat) : Keeps t (comment start fuel) := by
  induction fuel with
  | zero => exact keeps_pure _
  | succ fuel ih =>
    refine keeps_peek?.bind fun sym? => ?_
    split
    · exact reads_offset.bind fun _ => reads_fail
    · exact keeps_take?.bind fun _ => reads_ite (keeps_pure _) ih

lemma keeps_skipLine (fuel : Nat) : Keeps t (skipLine fuel) := by
  induction fuel with
  | zero => exact keeps_pure _
  | succ fuel ih =>
    refine keeps_take?.bind fun sym? => ?_
    split
    · exact keeps_pure _
    · exact reads_ite (keeps_pure _) ih

lemma keeps_flag (missing : Fault) (sym : Symbol) : Keeps t (flag missing sym) := by
  unfold flag
  dsimp only
  split
  · refine reads_ite (keeps_pure _) ?_
    split
    · exact keeps_pure _
    · exact reads_fail
  · exact reads_fail

lemma keeps_addedFlags (fuel : Nat) (add : Flags) (sym : Symbol) :
    Keeps t (addedFlags fuel add sym) := by
  induction fuel generalizing add sym with
  | zero => exact keeps_pure _
  | succ fuel ih =>
    refine (keeps_flag _ _).bind fun f? => ?_
    split
    · exact reads_fail
    · extract_lets more next
      have hnext : ∀ u, Keeps t (next u) := by
        refine fun _ => keeps_take?.bind fun sym? => ?_
        split
        · exact reads_fail
        · exact reads_ite (keeps_pure _) (ih _ _)
      exact reads_unless hnext

lemma keeps_droppedFlags (fuel : Nat) (drop : Flags) (sym : Symbol) :
    Keeps t (droppedFlags fuel drop sym) := by
  induction fuel generalizing drop sym with
  | zero => exact keeps_pure _
  | succ fuel ih =>
    refine (keeps_flag _ _).bind fun f? => ?_
    split
    · exact reads_fail
    · extract_lets more next
      have hnext : ∀ u, Keeps t (next u) := by
        refine fun _ => keeps_take?.bind fun sym? => ?_
        split
        · exact reads_fail
        · exact reads_ite (keeps_pure _) (ih _ _)
      exact reads_unless hnext

lemma keeps_groupFlags (sym : Symbol) : Keeps t (groupFlags sym) := by
  unfold groupFlags
  refine keeps_get.bind fun _ => ?_
  extract_lets fuel next
  have hnext : ∀ r, Keeps t (next r) := by
    rintro ⟨add, sym⟩
    refine reads_ite (keeps_modify_bind (fun _ => rfl) fun _ => keeps_pure _) ?_
    -- what follows on each of the three conditions, the last one first
    extract_lets withDrop withAdd
    have hwithDrop : ∀ drop, Keeps t (withDrop drop) := by
      intro drop
      unfold withDrop
      extract_lets last afterDrop
      have hlast : ∀ u, Keeps t (last u) := fun _ => keeps_pure _
      have hafterDrop : ∀ u, Keeps t (afterDrop u) := fun _ => reads_unless hlast
      exact reads_unless hafterDrop
    have hwithAdd : ∀ u, Keeps t (withAdd u) := by
      refine fun _ => reads_ite (keeps_take?.bind fun sym? => ?_) ((keeps_pure _).bind hwithDrop)
      split
      · exact reads_fail.bind hwithDrop
      · exact (keeps_droppedFlags _ _ _).bind hwithDrop
    exact reads_unless hwithAdd
  exact reads_ite ((keeps_pure _).bind hnext) ((keeps_addedFlags _ _ _).bind hnext)

lemma keeps_openGroup (name? : Option Text) : Keeps t (openGroup name?) := by
  refine keeps_get.bind fun s => ?_
  extract_lets index next
  have hnext : ∀ u, Keeps t (next u) := fun _ => keeps_pure _
  split
  · exact keeps_modify_bind (fun _ => rfl) hnext
  · split
    · exact reads_fail.bind hnext
    · exact keeps_modify_bind (fun _ => rfl) hnext

lemma keeps_closeGroup (index : Nat) (body : Node) : Keeps t (closeGroup index body) :=
  keeps_modify fun _ => rfl

lemma keeps_groupName (terminator : Char) : Keeps t (groupName terminator) :=
  (keeps_name _ _).bind fun _ => reads_ite (keeps_pure _) reads_fail

lemma keeps_namedReference (mode : Mode) : Keeps t (namedReference mode) := by
  refine (keeps_groupName _).bind fun n => keeps_get.bind fun s => ?_
  split
  · exact reads_fail
  · split
    · exact reads_fail
    · exact (Escaped.keeps_checkLookBehind _).bind fun _ => keeps_pure _

lemma keeps_conditionGroup : Keeps t conditionGroup := by
  refine (keeps_name _ _).bind fun n => ?_
  extract_lets back next
  have hnext : ∀ i, Keeps t (next i) := fun i =>
    (Escaped.keeps_checkLookBehind i).bind fun _ => keeps_pure _
  refine reads_ite (keeps_get.bind fun s => ?_) ?_
  · split
    · exact reads_fail.bind hnext
    · exact (keeps_pure _).bind hnext
  · split
    · exact reads_fail.bind hnext
    · refine reads_ite (reads_fail.bind hnext) (reads_ite (reads_fail.bind hnext) ?_)
      refine reads_ite (reads_fail.bind hnext) (reads_offset.bind fun o => ?_)
      refine (keeps_modify fun s => ?_).bind fun _ => (keeps_pure _).bind hnext
      split
      · rfl
      · rfl

lemma keeps_close (start : Nat) : Keeps t (close start) :=
  (keeps_accept _).bind fun _ => reads_ite (keeps_pure _) (reads_offset.bind fun _ => reads_fail)

/-! ### Expressions -/

section

variable [CharacterNames] {fuel : Nat}

lemma keeps_alternatives_succ (h : ∀ scope first, Keeps t (branches fuel scope first))
    (scope : Scope) : Keeps t (alternatives (fuel + 1) scope) := by
  rw [alternatives]
  exact (h _ _).bind fun _ => keeps_pure _

lemma keeps_branches_succ (hsequence : ∀ scope first row, Keeps t (sequence fuel scope first row))
    (hbranches : ∀ scope first, Keeps t (branches fuel scope first)) (scope : Scope)
    (first : Bool) : Keeps t (branches (fuel + 1) scope first) := by
  rw [branches]
  refine (hsequence _ _ _).bind fun row => (keeps_accept _).bind fun _ => ?_
  exact reads_ite ((hbranches _ _).bind fun _ => keeps_pure _) (keeps_pure _)

lemma keeps_sequence_succ (hsequence : ∀ scope first row, Keeps t (sequence fuel scope first row))
    (hgroup : ∀ scope first row, Keeps t (group fuel scope first row)) (scope : Scope)
    (first : Bool) (row : List Item) : Keeps t (sequence (fuel + 1) scope first row) := by
  rw [sequence]
  refine (keeps_flags _).bind fun f => .of_at fun before => reads_peek?.bind fun sym? => ?_
  split
  · exact reads_pure _ fun _ hs => hs.1.within
  next sym =>
  refine reads_ite (reads_pure _ fun _ hs => hs.1.within) ?_
  refine reads_take?_of_next.bind fun _ => .of_and fun _ => .of_and fun hsym => ?_
  extract_lets push again
  have hagain : ∀ least most?, Keeps t (again least most?) := fun _ _ =>
    reads_offset.bind fun _ => (keeps_repeatLast _ _ _ _).bind fun _ => hsequence _ _ _
  cases hsym with
  | escaped c =>
    refine Escaped.reads_inPattern.bind fun e => ?_
    split
    all_goals exact hsequence _ _ _
  | plain c =>
    dsimp only
    have hkeep : ∀ {x : Reader Node}, Keeps t x →
        Reads t (At t (before ++ [c])) x fun _ => Within t := fun h => h.from fun _ hs => hs.within
    refine reads_ite (hkeep (hsequence _ _ _)) (reads_ite (hkeep ?_) ?_)
    · exact keeps_get.bind fun _ => (keeps_skipLine _).bind fun _ => hsequence _ _ _
    refine reads_ite (hkeep ((keeps_charSet _).bind fun _ => hsequence _ _ _)) ?_
    refine reads_ite (hkeep (hagain _ _)) (reads_ite (hkeep (hagain _ _)) ?_)
    refine reads_ite (hkeep (hagain _ _)) (reads_dite (fun hbrace => ?_) fun _ => ?_)
    · subst hbrace
      refine reads_offset.bind fun start => reads_bounds?.bind fun bounds? => ?_
      split
      · exact hsequence _ _ _
      · exact (keeps_repeatLast _ _ _ _).bind fun _ => hsequence _ _ _
    refine reads_ite (hkeep (hsequence _ _ _)) (reads_ite (hkeep (hsequence _ _ _)) ?_)
    refine reads_ite (hkeep (hsequence _ _ _)) (reads_ite (hkeep ?_) (hkeep (hsequence _ _ _)))
    refine (hgroup _ _ _).bind fun node? => ?_
    split
    all_goals exact hsequence _ _ _

lemma keeps_group_succ (halternatives : ∀ scope, Keeps t (alternatives fuel scope))
    (hsequence : ∀ scope first row, Keeps t (sequence fuel scope first row)) (scope : Scope)
    (first : Bool) (row : List Item) : Keeps t (group (fuel + 1) scope first row) := by
  rw [group]
  refine (keeps_flags _).bind fun f => reads_offset.bind fun o => ?_
  extract_lets start captured look afterFlags
  have hcaptured : ∀ name?, Keeps t (captured name?) := fun _ =>
    (keeps_openGroup _).bind fun _ => (halternatives _).bind fun _ => (keeps_close _).bind fun _ =>
      (keeps_closeGroup _ _).bind fun _ => keeps_pure _
  have hlook : ∀ make negated, Keeps t (look make negated) := fun _ _ =>
    (halternatives _).bind fun _ => keeps_pure _
  have hbody : ∀ scope (make : Node → Option Node),
      Keeps t (alternatives fuel scope >>= fun body => close start >>= fun _ => pure (make body)) :=
    fun _ _ => (halternatives _).bind fun _ => (keeps_close _).bind fun _ => keeps_pure _
  refine (keeps_accept _).bind fun _ => reads_ite (hcaptured _) (keeps_take?.bind fun sym? => ?_)
  split
  · exact reads_fail
  refine reads_ite ?name (reads_ite (hbody _ _) (reads_ite ?comment (reads_ite ?ahead ?_)))
  case name =>
    refine (keeps_accept _).bind fun _ => reads_ite ((keeps_groupName _).bind fun _ =>
      hcaptured _) ((keeps_accept _).bind fun _ => reads_ite ?_ (keeps_take?.bind fun c? => ?_))
    · exact (keeps_namedReference _).bind fun _ => keeps_pure _
    · split
      · exact reads_fail
      · exact reads_fail
  case comment => exact keeps_get.bind fun _ => (keeps_comment _ _).bind fun _ => keeps_pure _
  case ahead => exact (hlook _ _).bind fun _ => (keeps_close _).bind fun _ => keeps_pure _
  refine reads_ite (keeps_take?.bind fun c? => ?behind) (reads_ite ?condition ?_)
  case behind =>
    split
    · exact reads_fail
    refine reads_ite (keeps_get.bind fun s => ?_) reads_fail
    extract_lets outer next
    have hnext : ∀ u, Keeps t (next u) := by
      refine fun _ => (hlook _ _).bind fun node => ?_
      extract_lets last
      have hlast : ∀ u, Keeps t (last u) := fun _ => (keeps_close _).bind fun _ => keeps_pure _
      exact reads_ite (keeps_modify_bind (fun _ => rfl) hlast) (hlast ())
    exact reads_ite (keeps_modify_bind (fun _ => rfl) hnext) (hnext ())
  case condition =>
    refine keeps_conditionGroup.bind fun index => (hsequence _ _ _).bind fun yes => ?_
    refine (keeps_accept _).bind fun _ => ?_
    extract_lets last
    have hlast : ∀ no, Keeps t (last no) := fun _ => (keeps_close _).bind fun _ => keeps_pure _
    refine reads_ite ((hsequence _ _ _).bind fun no => keeps_peek?.bind fun sym? => ?_)
      ((keeps_pure _).bind hlast)
    extract_lets next
    have hnext : ∀ u, Keeps t (next u) := fun _ => (keeps_pure _).bind hlast
    exact reads_unless hnext
  refine reads_ite (hbody _ _) (reads_ite ((keeps_groupFlags _).bind fun flags? => ?_) reads_fail)
  split
  · have hafterFlags : ∀ u, Keeps t (afterFlags u) := fun _ => keeps_pure _
    exact reads_ite (reads_offset.bind fun _ => reads_fail.bind hafterFlags) (hafterFlags ())
  · exact hbody _ _

/-- Expressions are read from the expressions that they hold, so this is by induction on the
fuel. -/
lemma keeps_expressions (fuel : Nat) :
    (∀ scope, Keeps t (alternatives fuel scope)) ∧
      (∀ scope first, Keeps t (branches fuel scope first)) ∧
      (∀ scope first row, Keeps t (sequence fuel scope first row)) ∧
      ∀ scope first row, Keeps t (group fuel scope first row) := by
  induction fuel with
  | zero =>
    refine ⟨fun _ => ?_, fun _ _ => ?_, fun _ _ _ => ?_, fun _ _ _ => ?_⟩
    · rw [alternatives]
      exact keeps_pure _
    · rw [branches]
      exact keeps_pure _
    · rw [sequence]
      exact keeps_pure _
    · rw [group]
      exact keeps_pure _
  | succ fuel ih =>
    obtain ⟨halternatives, hbranches, hsequence, hgroup⟩ := ih
    exact ⟨keeps_alternatives_succ hbranches, keeps_branches_succ hsequence hbranches,
      keeps_sequence_succ hsequence hgroup, keeps_group_succ halternatives hsequence⟩

end

end Reader

/-! ### Whole expressions -/

lemma checkConditions_ne_hugeNumber (s : Cursor) : checkConditions s ≠ .error .hugeNumber := by
  unfold checkConditions
  split <;> simp

lemma checkBehind_ne_hugeNumber (body : Node) : checkBehind body ≠ .error .hugeNumber := by
  unfold checkBehind
  split_ifs <;> simp

/-- What cannot be searched for is a fault. -/
lemma Node.check_ne_hugeNumber (n : Node) (template : Bool) :
    n.check template ≠ .error .hugeNumber := by
  induction n with
  | seq a b iha ihb | alt a b iha ihb | whether i a b iha ihb =>
    simp [check, bind_eq_error_iff, iha, ihb]
  | loop g least most? b ih =>
    rw [check]
    split
    · simp
    · exact ih
  | group i b ih | atomic b ih | ahead negated b ih | flagged b ih => exact ih
  | behind negated b ih => simp [check, bind_eq_error_iff, checkBehind_ne_hugeNumber, ih]
  | _ => simp [check]

/-- The compiler stops for a number that is too large only if the text holds one. -/
theorem holdsHuge_of_parse [CharacterNames] {t : Text} (h : Node.parse t = .error .hugeNumber) :
    HoldsHuge t := by
  unfold Node.parse at h
  obtain hsettle | ⟨start, hstart, h⟩ := bind_eq_error_iff.mp h
  · exact absurd hsettle (Reader.settle_ne_hugeNumber _)
  have hat : At t [] start := at_symbolsFrom 0 t (by rw [Reader.settle_eq_ok hstart])
  obtain hread | ⟨⟨node, s⟩, -, h⟩ := bind_eq_error_iff.mp h
  · exact ((Reader.keeps_expressions _).1 none start hat.within).2 hread
  -- behind the expression only faults are found
  have hrest : (checkConditions s >>= fun _ => node.check s.flags.template >>= fun _ =>
      .ok (node.searched s.flags.mode.ascii)) ≠ .error .hugeNumber := by
    simp [bind_eq_error_iff, checkConditions_ne_hugeNumber, Node.check_ne_hugeNumber]
  dsimp only at h
  split_ifs at h
  · cases h
  · cases h
  · cases h
  · exact absurd h hrest

end Settle.Pattern

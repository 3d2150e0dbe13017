import Settle.Proofs.Pattern.Limits

/-!
# Regular expressions that overflow

A regular expression overflows if a number that is too large stands in its text, and no fault in
front of the number keeps the compiler from it. What is behind the number does not count: a literal
text and a count that is too large overflow, whatever follows.
-/

namespace Settle.Pattern

/-- A number that is too large stands in a text, and no fault in front of it keeps the compiler
from it. -/
structure Overflows [CharacterNames] (source : Text) : Prop where
  holds   : HoldsHuge source
  reached : compile source = .error .hugeNumber

lemma overflows_iff [CharacterNames] {source : Text} :
    Overflows source ↔ compile source = .error .hugeNumber :=
  ⟨Overflows.reached, fun h => ⟨holdsHuge_of_parse (map_eq_error_iff.mp h), h⟩⟩

/-- Only a value that is a regular expression can hold a number that is too large. -/
lemma ofValue_eq_hugeNumber_iff [CharacterNames] {value : Text} {how : Comparison}
    {anyText : Bool} :
    ofValue value how anyText = .error .hugeNumber ↔ how = .regex ∧ Overflows value := by
  by_cases hany : (anyText && value = wildcard) = true
  · obtain ⟨rfl, rfl⟩ : anyText = true ∧ value = wildcard := by simpa using hany
    obtain ⟨p, hp, -⟩ := exists_ofValue_wildcard how
    have hfault : compile wildcard = .error (.fault .nothingToRepeat (some 0)) := rfl
    simp [overflows_iff, hfault, hp]
  · cases how with
    | equal => simp [ofValue_equal hany]
    | regex =>
      have hvalue : ofValue value .regex anyText = compile value := by
        rw [ofValue.eq_def, if_neg hany]
      simp [hvalue, overflows_iff]

/-! ### A count behind a literal text -/

/-- Symbols that are the code points of a row. -/
abbrev SpellRow (left : List (Nat × Symbol)) (ds : Text) : Prop :=
  List.Forall₂ (fun e d => e.2 = [d]) left ds

lemma symbolsFrom_row {ds : Text} (h : ∀ d ∈ ds, d ≠ '\\') (n : Nat) (rest : Text) :
    ∃ m left, SpellRow left ds ∧ symbolsFrom n (ds ++ rest) = left ++ symbolsFrom m rest := by
  induction ds generalizing n with
  | nil => exact ⟨n, [], .nil, rfl⟩
  | cons d ds ih =>
    obtain ⟨hd, hds⟩ := List.forall_mem_cons.mp h
    obtain ⟨m, left, hleft, hsymbols⟩ := ih hds (n + 1)
    refine ⟨m, (n, [d]) :: left, .cons rfl hleft, ?_⟩
    rw [List.cons_append, symbolsFrom_cons hd, hsymbols, List.cons_append]

lemma SpellRow.settled {left rest : List (Nat × Symbol)} {ds : Text} (h : SpellRow left ds)
    (hds : ∀ d ∈ ds, d ≠ '\\') (hrest : Settled rest) : Settled (left ++ rest) := by
  cases h with
  | nil => exact hrest
  | @cons e d left ds he _ =>
    have hd : d ≠ '\\' := hds d List.mem_cons_self
    intro e' he'
    obtain rfl : e = e' := Option.some.inj he'
    simpa [he, Cursor.isDangling, Text.ofString] using hd

/-- A row of a class is taken as a whole if the next symbol is not of the class. -/
lemma takeUpTo_row {p : CodePoint → Bool} {left rest : List (Nat × Symbol)} {ds : Text}
    (h : SpellRow left ds) (hp : ∀ d ∈ ds, p d ∧ d ≠ '\\') (hrest : Settled rest)
    (hends : ∀ e ∈ rest.head?, ∀ c, e.2 = [c] → p c = false) {n : Nat} (hn : ds.length ≤ n)
    (s : Cursor) :
    Reader.takeUpTo p n { s with left := left ++ rest } = .ok (ds, { s with left := rest }) := by
  induction h generalizing n with
  | nil =>
    cases n with
    | zero => rfl
    | succ n =>
      rw [Reader.takeUpTo, Reader.bind_apply, Reader.peek?_apply, ok_bind]
      cases rest with
      | nil => rfl
      | cons e rest =>
        obtain ⟨m, sym⟩ := e
        rcases sym with _ | ⟨c, _ | ⟨c', cs⟩⟩
        · rfl
        · have hc : ¬ p c = true := by simp [hends _ rfl c rfl]
          exact congrFun (if_neg hc) _
        · rfl
  | @cons e d left ds he hrow ih =>
    obtain ⟨⟨hd, -⟩, hds⟩ := List.forall_mem_cons.mp hp
    cases n with
    | zero => exact absurd hn (Nat.not_succ_le_zero _)
    | succ n =>
      let s₁ : Cursor := { s with left := e :: (left ++ rest) }
      have hnext : s₁.next? = some [d] := by simp [s₁, Cursor.next?, he]
      have hleft : s₁.left = (e.1, e.2) :: (left ++ rest) := rfl
      have htake := take?_eq hleft (SpellRow.settled hrow (fun d hd => (hds d hd).2) hrest)
      have hmore := ih hds (Nat.le_of_succ_le_succ hn)
      change Reader.takeUpTo p (n + 1) s₁ = _
      rw [Reader.takeUpTo, Reader.bind_apply, Reader.peek?_apply, ok_bind, hnext]
      simp only [if_pos hd, Reader.bind_apply, htake, ok_bind, hmore, s₁]
      rfl

namespace HugeCount

variable {ds : Text} (h : HugeCount ds)
include h

lemma ne_backslash : ∀ d ∈ ds, d ≠ '\\' := by
  rintro d hd rfl
  exact absurd (h.digits _ hd) (by decide)

lemma ne_nil : ds ≠ [] := by
  rintro rfl
  exact absurd h.huge (by decide)

lemma bound_eq : Reader.bound ds = .error .hugeNumber :=
  (if_neg (Nat.not_lt.mpr h.length)).trans (if_pos h.huge)

/-- Behind an opening brace, the reader stops for the count. -/
lemma bounds?_eq {left rest : List (Nat × Symbol)} (hrow : SpellRow left ds) (n : Nat)
    (hrest : Settled rest) (s : Cursor) :
    Reader.bounds? { s with left := left ++ (n, Text.ofString "\x7d") :: rest }
      = .error .hugeNumber := by
  let here : Cursor := { s with left := left ++ (n, Text.ofString "\x7d") :: rest }
  let behind : Cursor := { s with left := (n, Text.ofString "\x7d") :: rest }
  have hpeek : here.next? ≠ some (Text.ofString "\x7d") := by
    obtain ⟨d, ds', hds⟩ := List.exists_cons_of_ne_nil h.ne_nil
    subst hds
    obtain ⟨e, left', he, -, rfl⟩ := List.forall₂_cons_right_iff.mp hrow
    have hnext : here.next? = some [d] := by simp [here, Cursor.next?, he]
    rintro hbrace
    have hdigit := h.digits d List.mem_cons_self
    rw [(List.cons.inj (Option.some.inj (hnext.symm.trans hbrace))).1] at hdigit
    exact absurd hdigit (by decide)
  have hget : (get : Reader Cursor) here = .ok (here, here) := rfl
  have htake : Reader.takeAll CodePoint.isDigit here = .ok (ds, behind) := by
    refine takeUpTo_row hrow (fun d hd => ⟨h.digits d hd, h.ne_backslash d hd⟩) ?_ ?_ ?_ s
    · rintro e ⟨rfl⟩
      rfl
    · rintro e ⟨rfl⟩ c hc
      rw [← (List.cons.inj hc).1]
      decide
    · simp [here, hrow.length_eq]
  have hcomma : Reader.accept ',' behind = .ok (false, behind) := by
    refine accept_of_ne (show some (Text.ofString "\x7d") ≠ some [CodePoint.ofChar ','] from ?_)
    decide
  have hclose : Reader.accept '\x7d' behind = .ok (true, { s with left := rest }) :=
    accept_eq (s := behind) rfl hrest
  have hempty : ds.isEmpty = false := by simpa using h.ne_nil
  have hbound : (liftM (Reader.bound ds) : Reader Nat) { s with left := rest }
      = .error .hugeNumber := by
    rw [h.bound_eq]
    rfl
  change Reader.bounds? here = _
  unfold Reader.bounds?
  rw [Reader.bind_apply, hget, ok_bind, Reader.bind_apply, Reader.peek?_apply, ok_bind]
  refine (congrFun (if_neg hpeek) here).trans ?_
  have hsame : (pure ds : Reader Text) behind = .ok (ds, behind) := rfl
  simp only [Reader.bind_apply, htake, ok_bind, hcomma, Bool.false_eq_true, if_false, hsame, hclose,
    if_true, hempty, hbound]
  rfl

end HugeCount

lemma sequence_of_huge [CharacterNames] {ds : Text} (huge : HugeCount ds)
    {left rest : List (Nat × Symbol)} (hrow : SpellRow left ds) (hrest : Settled rest) {m n : Nat}
    {fuel : Nat} {scope : Scope} {first : Bool} {row : List Item} {s : Cursor}
    (hflags : scope.getD s.flags = {})
    (hleft : s.left = (m, Text.ofString "\x7b") :: (left ++ (n, Text.ofString "\x7d") :: rest)) :
    Reader.sequence (fuel + 1) scope first row s = .error .hugeNumber := by
  have hnext : s.next? = some (Text.ofString "\x7b") := by simp [Cursor.next?, hleft]
  have hbrace : Settled ((n, Text.ofString "\x7d") :: rest) := by
    rintro e ⟨rfl⟩
    rfl
  have htake := take?_eq hleft (hrow.settled huge.ne_backslash hbrace)
  rw [Reader.sequence]
  simp only [Reader.bind_apply, Reader.flags_apply, ok_bind, Reader.peek?_apply, hnext, hflags]
  rw [if_neg (by decide)]
  simp only [Reader.bind_apply, htake, ok_bind]
  have hbounds := huge.bounds?_eq hrow n hrest s
  let behind : Cursor := { s with left := left ++ (n, Text.ofString "\x7d") :: rest }
  change (Reader.offset >>= fun start => Reader.bounds? >>= _) behind = _
  rw [Reader.bind_apply, show Reader.offset behind = .ok (behind.offset, behind) from rfl, ok_bind,
    Reader.bind_apply, hbounds]
  rfl

/-- Only a lone backslash at the end is refused as soon as it comes next. -/
lemma settled_symbolsFrom {t : Text} (h : t ≠ Text.ofString "\\") (n : Nat) :
    Settled (symbolsFrom n t) := by
  match t with
  | [] => exact nofun
  | [c] =>
    rintro e ⟨rfl⟩
    simpa [Cursor.isDangling] using h
  | c :: d :: t =>
    rw [symbolsFrom]
    split
    · rintro e ⟨rfl⟩
      simp [Cursor.isDangling, Text.ofString]
    · next hc =>
      rintro e ⟨rfl⟩
      simpa [Cursor.isDangling, Text.ofString] using hc

lemma alternatives_of_error [CharacterNames] {fuel : Nat} {s : Cursor} {e : PatternError}
    (h : Reader.sequence fuel none true [] s = .error e) :
    Reader.alternatives (fuel + 2) none s = .error e := by
  have hbranches : Reader.branches (fuel + 1) none true s = .error e := by
    rw [Reader.branches]
    simp only [Reader.bind_apply, h]
    rfl
  rw [Reader.alternatives]
  simp only [Reader.bind_apply, Option.isNone_none, hbranches]
  rfl

/-- Behind a literal text, a count that is too large stops the compiler, whatever follows but a lone
backslash. -/
theorem overflows_of_literal [CharacterNames] {ds : Text} (huge : HugeCount ds) (t : Text)
    {after : Text} (hafter : after ≠ Text.ofString "\\") :
    Overflows (escape t ++ "\x7b" ++ ds ++ "\x7d" ++ after) := by
  refine ⟨.bounds (.both huge), map_eq_error_iff.mpr ?_⟩
  generalize hsource : escape t ++ "\x7b" ++ ds ++ "\x7d" ++ after = source
  -- the symbols of the text, of the count, and of what follows
  obtain ⟨m, front, hspell, hfront⟩ :=
    symbolsFrom_escape 0 t ("\x7b" ++ (ds ++ ("\x7d" ++ after)))
  obtain ⟨n, row, hrow, hcount⟩ := symbolsFrom_row huge.ne_backslash (m + 1) ("\x7d" ++ after)
  let count : List (Nat × Symbol) := (m, Text.ofString "\x7b") ::
    (row ++ (n, Text.ofString "\x7d") :: symbolsFrom (n + 1) after)
  have hsymbols : symbolsFrom 0 source = front ++ count := by
    have hopen : symbolsFrom m ("\x7b" ++ (ds ++ ("\x7d" ++ after)))
        = (m, Text.ofString "\x7b") :: symbolsFrom (m + 1) (ds ++ ("\x7d" ++ after)) :=
      symbolsFrom_cons (by decide) m _
    have hclose : symbolsFrom n ("\x7d" ++ after)
        = (n, Text.ofString "\x7d") :: symbolsFrom (n + 1) after :=
      symbolsFrom_cons (by decide) n after
    rw [← hsource]
    simpa [hopen, hcount, hclose] using hfront
  have hsettled : Settled count := by
    rintro e ⟨rfl⟩
    rfl
  let start : Cursor := { left := symbolsFrom 0 source, size := source.length }
  have hstart : Reader.settle start = .ok start :=
    settle_eq (show Settled (symbolsFrom 0 source) from hsymbols ▸ hspell.settled hsettled)
  have hfuel : 5 * (symbolsFrom 0 source).length + 5
      = (4 * t.length + 5 * count.length + 2) + 1 + t.length + 2 := by
    have hlength : front.length = t.length := hspell.length_eq
    rw [hsymbols, List.length_append, hlength]
    omega
  have hread : Reader.alternatives (5 * (symbolsFrom 0 source).length + 5) none start
      = .error .hugeNumber := by
    rw [hfuel]
    refine alternatives_of_error ?_
    rw [sequence_of_spellAll hspell hsymbols hsettled rfl]
    exact sequence_of_huge huge hrow (settled_symbolsFrom hafter (n + 1)) rfl rfl
  unfold Node.parse
  simp only [start] at hstart hread
  simp only [hstart, ok_bind, StateT.run, hread]
  rfl

end Settle.Pattern

import Mathlib.Data.List.Forall2
import Mathlib.Tactic.Lemma
import Settle.Pattern.Basic
import Settle.Proofs.Except

/-!
# Reading a text that is escaped

A symbol that is a code point without meaning of its own, or a backslash in front of one that has
such a meaning, is read as that code point. So a text that is escaped is read as its code points,
whatever stands in front of it and behind it.
-/

namespace Settle.Pattern

/-! ### Readers -/

namespace Reader

variable {α β : Type}

lemma bind_apply (x : Reader α) (f : α → Reader β) (s : Cursor) :
    (x >>= f) s = x s >>= fun r => f r.1 r.2 := rfl

lemma flags_apply (scope : Scope) (s : Cursor) :
    flags scope s = .ok (scope.getD s.flags, s) := rfl

lemma peek?_apply (s : Cursor) : peek? s = .ok (s.next?, s) := rfl

end Reader

/-- What comes next is no lone backslash. -/
def Settled (left : List (Nat × Symbol)) : Prop :=
  ∀ e ∈ left.head?, Cursor.isDangling e.2 = false

lemma settle_eq {s : Cursor} (h : Settled s.left) : Reader.settle s = .ok s := by
  cases hleft : s.left with
  | nil => simp [Reader.settle, hleft]
  | cons e rest =>
    have he := h e (by simp [hleft])
    simp [Reader.settle, hleft, he]

lemma take?_eq {s : Cursor} {n : Nat} {sym : Symbol} {rest : List (Nat × Symbol)}
    (hleft : s.left = (n, sym) :: rest) (hrest : Settled rest) :
    Reader.take? s = .ok (some sym, { s with left := rest }) := by
  have hsettle := settle_eq (s := { s with left := rest }) hrest
  simp [Reader.take?, Cursor.next?, hleft, hsettle, Except.map]

lemma accept_eq {s : Cursor} {n : Nat} {c : Char} {rest : List (Nat × Symbol)}
    (hleft : s.left = (n, [CodePoint.ofChar c]) :: rest) (hrest : Settled rest) :
    Reader.accept c s = .ok (true, { s with left := rest }) := by
  have hnext : s.next? = some [CodePoint.ofChar c] := by simp [Cursor.next?, hleft]
  rw [Reader.accept, Reader.bind_apply, Reader.peek?_apply, ok_bind, if_pos hnext,
    Reader.bind_apply, take?_eq hleft hrest]
  rfl

lemma accept_of_ne {s : Cursor} {c : Char} (h : s.next? ≠ some [CodePoint.ofChar c]) :
    Reader.accept c s = .ok (false, s) := by
  rw [Reader.accept, Reader.bind_apply, Reader.peek?_apply, ok_bind, if_neg h]
  rfl

/-! ### Code points -/

lemma ne_of_isSpecial {c d : CodePoint} (hc : isSpecial c = false) (hd : isSpecial d = true) :
    c ≠ d := by
  rintro rfl
  rw [hc] at hd
  cases hd

lemma not_isLetter_of_isSpecial {c : CodePoint} (h : isSpecial c = true) :
    c.isLetter = false ∧ c.isDigit = false := by
  have hall : ((Text.ofString "()[]\x7b\x7d?*+-|^$\\.&~# \t\n\r\x0b\x0c").all fun c =>
      !c.isLetter && !c.isDigit) = true := by decide
  simpa using List.all_eq_true.mp hall c (by simpa [isSpecial] using h)

/-- A backslash takes a special code point its meaning. -/
lemma inPattern_of_isSpecial [CharacterNames] {c : CodePoint} (h : isSpecial c = true)
    (e : Symbol) :
    Escaped.inPattern false e c = pure (.point c) := by
  obtain ⟨hletter, hdigit⟩ := not_isLetter_of_isSpecial h
  have hne : ∀ d : CodePoint, (d.isLetter || d.isDigit) = true → c ≠ d := by
    rintro d hd rfl
    rw [hletter, hdigit] at hd
    cases hd
  have hcategory : Escaped.category? c = none := by
    simp (disch := decide) only [Escaped.category?, hne, if_false]
  have hanchor : Escaped.anchor? false c = none := by
    simp (disch := decide) only [Escaped.anchor?, hne, if_false]
  have hnumber : Escaped.byNumber? e c = none := by
    simp (disch := decide) only [Escaped.byNumber?, hne, if_false]
  by_cases hc : c = '\\'
  · subst hc
    rfl
  · have hcontrol : Escaped.control? c = none := by
      simp (disch := decide) only [Escaped.control?, hne, hc, if_false]
    have hzero : c ≠ '0' := hne _ (by decide)
    simp only [Escaped.inPattern, hcategory, hanchor, hnumber, hcontrol, if_neg hzero, hdigit,
      Escaped.plain, hletter]
    rfl

/-- A symbol spells a code point, with a backslash if that has a meaning of its own. -/
inductive Spells : Symbol → CodePoint → Prop where
  | plain {c : CodePoint} (h : isSpecial c = false) : Spells [c] c
  | escaped {c : CodePoint} (h : isSpecial c = true) : Spells ['\\', c] c

lemma Spells.not_dangling {sym : Symbol} {c : CodePoint} (h : Spells sym c) :
    Cursor.isDangling sym = false := by
  cases h with
  | plain h =>
    have hc : c ≠ '\\' := ne_of_isSpecial h (by decide)
    simpa [Cursor.isDangling, Text.ofString] using hc
  | escaped h => simp [Cursor.isDangling, Text.ofString]

/-- The node of a code point that stands for itself. -/
def literal (c : CodePoint) : Node := .point c false ⟨false, false⟩

/-- Without flags, a symbol that spells a code point is read as that code point. -/
lemma sequence_of_spells [CharacterNames] {fuel : Nat} {scope : Scope} {first : Bool}
    {row : List Item}
    {s : Cursor} {n : Nat} {sym : Symbol} {c : CodePoint} {rest : List (Nat × Symbol)}
    (hleft : s.left = (n, sym) :: rest) (hrest : Settled rest)
    (hflags : scope.getD s.flags = {}) (hsym : Spells sym c) :
    Reader.sequence (fuel + 1) scope first row s
      = Reader.sequence fuel scope first ((literal c, .other) :: row) { s with left := rest } := by
  have hnext : s.next? = some sym := by simp [Cursor.next?, hleft]
  have htake := take?_eq hleft hrest
  rw [Reader.sequence]
  cases hsym with
  | plain h =>
    have hne : ∀ d : CodePoint, isSpecial d = true → c ≠ d := fun d => ne_of_isSpecial h
    have hgoes :
        ¬ (decide ([c] = Text.ofString "|") || decide ([c] = Text.ofString ")")) = true := by
      simp [Text.ofString, hne '|' (by decide), hne ')' (by decide)]
    simp only [Reader.bind_apply, Reader.flags_apply, ok_bind, Reader.peek?_apply, hnext,
      hflags, if_neg hgoes, htake]
    simp (disch := decide) only [Bool.false_and, Bool.false_eq_true, hne, if_false]
    rfl
  | escaped h =>
    simp only [Reader.bind_apply, Reader.flags_apply, ok_bind, Reader.peek?_apply, hnext,
      hflags]
    rw [if_neg (by simp [Text.ofString])]
    simp only [Reader.bind_apply, htake, ok_bind]
    rw [show ({} : Flags).mode.ascii = false from rfl, inPattern_of_isSpecial h]
    rfl

/-! ### Rows of symbols -/

lemma symbolsFrom_cons {c : CodePoint} (hc : c ≠ '\\') (n : Nat) (t : Text) :
    symbolsFrom n (c :: t) = (n, [c]) :: symbolsFrom (n + 1) t := by
  cases t with
  | nil => rfl
  | cons d t => rw [symbolsFrom, if_neg hc]

/-- Symbols that spell the code points of a text. -/
abbrev SpellAll (left : List (Nat × Symbol)) (t : Text) : Prop :=
  List.Forall₂ (fun e c => Spells e.2 c) left t

/-- The symbols of a text that is escaped spell it. -/
lemma symbolsFrom_escape (n : Nat) (t rest : Text) :
    ∃ m left, SpellAll left t ∧ symbolsFrom n (escape t ++ rest) = left ++ symbolsFrom m rest := by
  induction t generalizing n with
  | nil => exact ⟨n, [], .nil, rfl⟩
  | cons c t ih =>
    cases h : isSpecial c with
    | true =>
      obtain ⟨m, left, hleft, hsymbols⟩ := ih (n + 2)
      refine ⟨m, (n, ['\\', c]) :: left, .cons (.escaped h) hleft, ?_⟩
      simp [escape, h, symbolsFrom, ← hsymbols]
    | false =>
      obtain ⟨m, left, hleft, hsymbols⟩ := ih (n + 1)
      refine ⟨m, (n, [c]) :: left, .cons (.plain h) hleft, ?_⟩
      have hc : c ≠ '\\' := ne_of_isSpecial h (by decide)
      simp [escape, h, symbolsFrom_cons hc, ← hsymbols]

lemma SpellAll.settled {left rest : List (Nat × Symbol)} {t : Text} (h : SpellAll left t)
    (hrest : Settled rest) : Settled (left ++ rest) := by
  cases h with
  | nil => exact hrest
  | cons hsym _ =>
    rintro e ⟨rfl⟩
    exact hsym.not_dangling

/-- Symbols that spell a text are read as its code points. -/
lemma sequence_of_spellAll [CharacterNames] {fuel : Nat} {scope : Scope} {first : Bool}
    {row : List Item}
    {s : Cursor} {left rest : List (Nat × Symbol)} {t : Text} (h : SpellAll left t)
    (hleft : s.left = left ++ rest) (hrest : Settled rest) (hflags : scope.getD s.flags = {}) :
    Reader.sequence (fuel + t.length) scope first row s
      = Reader.sequence fuel scope first ((t.map fun c => (literal c, .other)).reverse ++ row)
          { s with left := rest } := by
  induction h generalizing s row with
  | nil =>
    cases s
    cases hleft
    rfl
  | @cons e c left t hsym hspell ih =>
    have hnext : s.left = e :: (left ++ rest) := hleft
    rw [List.length_cons, ← Nat.add_assoc,
      sequence_of_spells hnext (SpellAll.settled hspell hrest) hflags hsym]
    refine (@ih _ { s with left := left ++ rest } rfl hflags).trans ?_
    simp

/-! ### Whole expressions -/

lemma sequence_of_nil [CharacterNames] (fuel : Nat) (scope : Scope) (first : Bool)
    (row : List Item) {s : Cursor} (hleft : s.left = []) :
    Reader.sequence (fuel + 1) scope first row s
      = .ok (.ofList (row.reverse.map Prod.fst), s) := by
  have hnext : s.next? = none := by simp [Cursor.next?, hleft]
  rw [Reader.sequence]
  simp only [Reader.bind_apply, Reader.flags_apply, ok_bind, Reader.peek?_apply, hnext]
  rfl

/-- A row that is read to the end is the only alternative. -/
lemma alternatives_of_row [CharacterNames] {fuel : Nat} {s s' : Cursor} {node : Node}
    (h : Reader.sequence fuel none true [] s = .ok (node, s')) (hend : s'.left = []) :
    Reader.alternatives (fuel + 2) none s = .ok (node, s') := by
  have hnext : s'.next? = none := by simp [Cursor.next?, hend]
  have haccept : Reader.accept '|' s' = .ok (false, s') := accept_of_ne (by simp [hnext])
  have hbranches : Reader.branches (fuel + 1) none true s = .ok ([node], s') := by
    rw [Reader.branches]
    simp only [Reader.bind_apply, h, ok_bind, haccept]
    rfl
  rw [Reader.alternatives]
  simp only [Reader.bind_apply, Option.isNone_none, hbranches, ok_bind]
  rfl

lemma check_ofList {template : Bool} {ns : List Node} (h : ∀ n ∈ ns, n.check template = .ok ()) :
    (Node.ofList ns).check template = .ok () := by
  induction ns with
  | nil => rfl
  | cons n ns ih =>
    obtain ⟨hn, hns⟩ := List.forall_mem_cons.mp h
    cases ns with
    | nil => exact hn
    | cons m ns =>
      have hseq : Node.ofList (n :: m :: ns) = .seq n (Node.ofList (m :: ns)) := rfl
      rw [hseq, Node.check, hn, ok_bind, ih hns]

section Ends

variable {fuel : Nat} {scope : Scope} {first : Bool} {row : List Item} {s : Cursor} {n : Nat}
  {rest : List (Nat × Symbol)} (hrest : Settled rest) (hflags : scope.getD s.flags = {})
include hrest hflags

lemma sequence_of_caret [CharacterNames] (hleft : s.left = (n, Text.ofString "^") :: rest) :
    Reader.sequence (fuel + 1) scope first row s
      = Reader.sequence fuel scope first ((.anchor .firstLineStart, .place) :: row)
          { s with left := rest } := by
  have hnext : s.next? = some (Text.ofString "^") := by simp [Cursor.next?, hleft]
  have htake := take?_eq hleft hrest
  rw [Reader.sequence]
  simp only [Reader.bind_apply, Reader.flags_apply, ok_bind, Reader.peek?_apply, hnext,
    hflags]
  rw [if_neg (by decide)]
  simp only [Reader.bind_apply, htake, ok_bind]
  rfl

lemma sequence_of_end [CharacterNames] (hleft : s.left = (n, Text.ofString "\\Z") :: rest) :
    Reader.sequence (fuel + 1) scope first row s
      = Reader.sequence fuel scope first ((.anchor .textEnd, .place) :: row)
          { s with left := rest } := by
  have hnext : s.next? = some (Text.ofString "\\Z") := by simp [Cursor.next?, hleft]
  have htake := take?_eq hleft hrest
  rw [Reader.sequence]
  simp only [Reader.bind_apply, Reader.flags_apply, ok_bind, Reader.peek?_apply, hnext,
    hflags]
  rw [if_neg (by decide)]
  simp only [Reader.bind_apply, htake, ok_bind]
  rfl

end Ends

/-- The nodes of a text alone: its code points between the two ends. -/
def exactNodes (t : Text) : List Node :=
  .anchor .firstLineStart :: (t.map literal ++ [.anchor .textEnd])

/-- An expression that is read to the end and can be searched for. -/
lemma parse_of_read [CharacterNames] {t : Text} {start s : Cursor} {node : Node}
    (hstart : Reader.settle { left := symbolsFrom 0 t, size := t.length } = .ok start)
    (hread : Reader.alternatives (5 * (symbolsFrom 0 t).length + 5) none start = .ok (node, s))
    (hflags : (s.flags.ascii && s.flags.unicode) = false) (hend : s.left = [])
    (hconditions : checkConditions s = .ok ()) (hcheck : node.check s.flags.template = .ok ()) :
    Node.parse t = .ok (node.searched s.flags.mode.ascii) := by
  unfold Node.parse
  simp only [hstart, ok_bind, StateT.run, hread, hflags, hend, hconditions, hcheck]
  rfl

/-- A text between its two ends does not begin with a set. -/
lemma searched_exactNodes (ascii : Bool) (t : Text) :
    (Node.ofList (exactNodes t)).searched ascii = Node.ofList (exactNodes t) := by
  cases t <;> rfl

/-- The symbols of the pattern of a text alone. -/
lemma exists_symbols_exactSource (t : Text) :
    ∃ m left, SpellAll left t ∧ symbolsFrom 0 (exactSource t)
      = (0, Text.ofString "^") :: (left ++ [(m, Text.ofString "\\Z")]) := by
  obtain ⟨m, left, hspell, hsymbols⟩ := symbolsFrom_escape 1 t "\\Z"
  have hcaret : exactSource t = CodePoint.ofChar '^' :: (escape t ++ "\\Z") := rfl
  refine ⟨m, left, hspell, ?_⟩
  rw [hcaret, symbolsFrom_cons (by decide), hsymbols]
  rfl

lemma sequence_of_exact [CharacterNames] {m : Nat} {left : List (Nat × Symbol)} {t : Text}
    (h : SpellAll left t) {s : Cursor} (hflags : s.flags = {})
    (hleft : s.left = (0, Text.ofString "^") :: (left ++ [(m, Text.ofString "\\Z")])) (fuel : Nat) :
    Reader.sequence (fuel + 1 + 1 + t.length + 1) none true [] s
      = .ok (.ofList (exactNodes t), { s with left := [] }) := by
  have hend : Settled [(m, Text.ofString "\\Z")] := by
    simp [Settled, Cursor.isDangling, Text.ofString]
  have hscope : Option.getD (none : Scope) s.flags = {} := hflags
  let s₁ : Cursor := { s with left := left ++ [(m, Text.ofString "\\Z")] }
  let s₂ : Cursor := { s with left := [(m, Text.ofString "\\Z")] }
  rw [sequence_of_caret (SpellAll.settled h hend) hscope hleft,
    sequence_of_spellAll (s := s₁) h rfl hend hscope,
    sequence_of_end (s := s₂) (by simp [Settled]) hscope rfl, sequence_of_nil _ _ _ _ rfl]
  simp [exactNodes, Function.comp_def, s₂]

/-- The source of the pattern of a text alone is read as the text between the two ends. -/
theorem parse_exactSource [CharacterNames] (t : Text) :
    Node.parse (exactSource t) = .ok (.ofList (exactNodes t)) := by
  obtain ⟨m, left, hspell, hsymbols⟩ := exists_symbols_exactSource t
  let start : Cursor := { left := symbolsFrom 0 (exactSource t), size := (exactSource t).length }
  have hstart : Reader.settle start = .ok start := by
    simp only [start, hsymbols]
    rfl
  have hfuel : 5 * (symbolsFrom 0 (exactSource t)).length + 5
      = (4 * t.length + 10) + 1 + 1 + t.length + 1 + 2 := by
    have hlength : left.length = t.length := hspell.length_eq
    simp [hsymbols, hlength]
    omega
  have hread := alternatives_of_row (sequence_of_exact (s := start) hspell rfl hsymbols
    (4 * t.length + 10)) rfl
  have hcheck : (Node.ofList (exactNodes t)).check false = .ok () := by
    refine check_ofList ?_
    simp only [exactNodes, List.forall_mem_cons, List.forall_mem_append, List.forall_mem_map]
    exact ⟨rfl, fun _ _ => rfl, rfl, by simp⟩
  rw [parse_of_read hstart (hfuel ▸ hread) rfl rfl rfl hcheck, searched_exactNodes]

end Settle.Pattern

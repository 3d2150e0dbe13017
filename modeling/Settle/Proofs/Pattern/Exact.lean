import Settle.Proofs.Pattern.Literal

/-!
# Which texts hold an exact pattern

The pattern of a text alone is found in that text and in no other. The pattern that stands for any
text is found in every text: its outer repetition need not begin. So a configured value that has to
be equal is found in itself alone, unless it is the wildcard and may stand for any text.
-/

namespace Settle.Pattern

namespace Node

/-- Nodes one after another are matched one after another. -/
lemma run_ofList_cons (subject : Array CodePoint) (n : Node) (ns : List Node) (s : Spot)
    (k : Rest) :
    (ofList (n :: ns)).run subject s k
      = n.run subject s fun s' => (ofList ns).run subject s' k := by
  cases ns <;> simp only [ofList, run]

lemma run_literal (subject : Array CodePoint) (c : CodePoint) (s : Spot) (k : Rest) :
    (literal c).run subject s k
      = if subject[s.pos]? = some c then k { s with pos := s.pos + 1 } else none := by
  simp only [literal, run, one, samePoint, Bool.false_and]
  cases subject[s.pos]? <;> simp

/-- The code points of a text and the end behind them match where the text is all that is left. -/
lemma isSome_run_literals {subject t : Text} {s : Spot} (hs : s.pos ≤ subject.length) :
    ((ofList (t.map literal ++ [.anchor .textEnd])).run subject.toArray s some).isSome = true ↔
      subject.drop s.pos = t := by
  induction t generalizing s with
  | nil =>
    have hend : ((ofList [.anchor .textEnd]).run subject.toArray s some).isSome
        = decide (s.pos = subject.length) := by
      by_cases h : s.pos = subject.length <;> simp [ofList, run, Anchor.holds, h]
    rw [List.map_nil, List.nil_append, hend, decide_eq_true_iff, List.drop_eq_nil_iff]
    omega
  | cons c t ih =>
    rw [List.map_cons, List.cons_append, run_ofList_cons, run_literal, List.getElem?_toArray]
    by_cases hc : subject[s.pos]? = some c
    · obtain ⟨hlt, rfl⟩ := List.getElem?_eq_some_iff.mp hc
      rw [if_pos hc, @ih { s with pos := s.pos + 1 } hlt, List.drop_eq_getElem_cons hlt,
        List.cons_eq_cons]
      exact (and_iff_right rfl).symm
    · rw [if_neg hc]
      refine iff_of_false (by simp) fun hdrop => hc ?_
      rw [← List.head?_drop, hdrop, List.head?_cons]

end Node

/-- The pattern of a text alone is found in that text and in no other. -/
theorem foundIn_exactNodes_iff {subject t : Text} :
    (Node.ofList (exactNodes t)).foundIn subject = true ↔ subject = t := by
  have hmatches : ∀ pos, (Node.ofList (exactNodes t)).matchesAt subject.toArray pos = true ↔
      pos = 0 ∧ subject = t := by
    intro pos
    rw [Node.matchesAt, exactNodes, Node.run_ofList_cons, Node.run]
    by_cases hpos : pos = 0
    · subst hpos
      simp only [Anchor.holds, BEq.rfl, if_true, true_and]
      exact Node.isSome_run_literals (Nat.zero_le _)
    · simp [Anchor.holds, hpos]
  simp [Node.foundIn, hmatches]

lemma compile_exactSource [CharacterNames] (t : Text) :
    compile (exactSource t) = .ok ⟨exactSource t, .ofList (exactNodes t)⟩ := by
  rw [compile, parse_exactSource]
  rfl

/-! ### Any text -/

lemma isSome_greedyLoop (body : Way) (fuel count : Nat) (most? last? : Option Nat) (s : Spot) :
    (greedyLoop body 0 most? fuel count last? s some).isSome = true := by
  cases fuel with
  | zero => rfl
  | succ fuel =>
    simp only [greedyLoop, Nat.not_lt_zero, if_false]
    split
    · split <;> rfl
    · rfl

/-- A repetition that need not begin is found in every text. -/
lemma Node.foundIn_optional (most? : Option Nat) (body : Node) (subject : Text) :
    (Node.loop .greedy 0 most? body).foundIn subject = true := by
  refine List.any_eq_true.mpr ⟨0, by simp, ?_⟩
  rw [Node.matchesAt, Node.run]
  exact isSome_greedyLoop _ _ _ _ _ _

lemma parse_anySource [CharacterNames] :
    Node.parse anySource
      = .ok (.loop .greedy 0 (some 1) (.group 1 (.loop .greedy 0 none (.any false)))) := rfl

/-- The pattern that stands for any text is found in every text. -/
theorem exists_compile_anySource [CharacterNames] :
    ∃ p, compile anySource = .ok p ∧ ∀ subject, p.foundIn subject = true := by
  refine ⟨⟨anySource, _⟩, by rw [compile, parse_anySource]; rfl, fun subject => ?_⟩
  exact Node.foundIn_optional _ _ subject

/-! ### Configured values -/

/-- A value that stands for itself becomes the pattern of that text alone. -/
lemma ofValue_equal [CharacterNames] {value : Text} {anyText : Bool}
    (h : ¬ (anyText && value = wildcard)) :
    ofValue value .equal anyText = .ok ⟨exactSource value, .ofList (exactNodes value)⟩ := by
  rw [ofValue, if_neg h]
  exact compile_exactSource value

/-- Where a wildcard is one, it becomes a pattern that is found in every text. -/
lemma exists_ofValue_wildcard [CharacterNames] (how : Comparison) :
    ∃ p, ofValue wildcard how true = .ok p ∧ ∀ t, p.foundIn t = true := by
  unfold ofValue
  rw [if_pos (by simp)]
  exact exists_compile_anySource

/-- A value that has to be equal is found in itself alone, whatever code points it consists of.
Only where a wildcard is one, the wildcard is found in any text, and then also if it was to be read
as a regular expression. -/
theorem found_iff_equal_or_wildcard [CharacterNames] (value : Text) :
    (∃ p, ofValue value .equal false = .ok p ∧ ∀ t, p.foundIn t = true ↔ t = value) ∧
    (∃ p, ofValue value .equal true = .ok p ∧
      ∀ t, p.foundIn t = true ↔ t = value ∨ value = wildcard) ∧
    ∀ how, ∃ p, ofValue wildcard how true = .ok p ∧ ∀ t, p.foundIn t = true := by
  refine ⟨?_, ?_, exists_ofValue_wildcard⟩
  · exact ⟨_, ofValue_equal (by simp), fun t => foundIn_exactNodes_iff⟩
  · by_cases hvalue : value = wildcard
    · obtain ⟨p, hp, hfound⟩ := exists_ofValue_wildcard .equal
      subst hvalue
      exact ⟨p, hp, fun t => iff_of_true (hfound t) (Or.inr rfl)⟩
    · refine ⟨_, ofValue_equal (by simp [hvalue]), fun t => ?_⟩
      rw [or_iff_left hvalue]
      exact foundIn_exactNodes_iff

end Settle.Pattern

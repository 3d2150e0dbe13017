import Settle.Proofs.Clock.Chronological

/-!
# Exact times and an infinite one

On rational times, the scale with an infinite time on top does what the rational scale does. An
infinite pause lasts until the deadline, if there is one, and what comes behind an infinite pause
comes behind every deadline.
-/

namespace Settle

namespace Extended

@[simp] lemma ofRat_le_ofRat {q r : ℚ} : ofRat q ≤ ofRat r ↔ q ≤ r := WithTop.coe_le_coe

@[simp] lemma ofRat_lt_ofRat {q r : ℚ} : ofRat q < ofRat r ↔ q < r := WithTop.coe_lt_coe

lemma ofRat_zero : ofRat 0 = 0 := rfl

lemma ofRat_add (q r : ℚ) : ofRat (q + r) = ofRat q + ofRat r := rfl

lemma ofRat_sub (q r : ℚ) : ofRat (q - r) = ofRat q - ofRat r := rfl

lemma zero_lt_ofRat {q : ℚ} : 0 < ofRat q ↔ 0 < q := ofRat_lt_ofRat

lemma ofRat_le_zero {q : ℚ} : ofRat q ≤ 0 ↔ q ≤ 0 := ofRat_le_ofRat

/-- The infinite time. -/
def infinite : Extended := (⊤ : WithTop ℚ)

lemma le_infinite (t : Extended) : t ≤ infinite := @le_top (WithTop ℚ) _ _ t

lemma ofRat_lt_infinite (q : ℚ) : ofRat q < infinite := WithTop.coe_lt_top q

lemma infinite_add (t : Extended) : infinite + t = infinite := WithTop.top_add t

lemma add_infinite (t : Extended) : t + infinite = infinite := WithTop.add_top t

/-- Every time is the infinite one or a rational one. -/
lemma eq_infinite_or_ofRat (t : Extended) : t = infinite ∨ ∃ q, t = ofRat q := by
  cases t using WithTop.recTopCoe with
  | top => exact Or.inl rfl
  | coe q => exact Or.inr ⟨q, rfl⟩

/-- Some rational time is not later. -/
lemma exists_ofRat_le (t : Extended) : ∃ q, ofRat q ≤ t := by
  obtain rfl | ⟨q, rfl⟩ := t.eq_infinite_or_ofRat
  · exact ⟨0, le_infinite _⟩
  · exact ⟨q, Chronological.le_refl _⟩

/-- A span above zero is as long as some rational one above zero. -/
lemma exists_pos_ofRat_le {t : Extended} (h : 0 < t) : ∃ q, 0 < q ∧ ofRat q ≤ t := by
  obtain rfl | ⟨q, rfl⟩ := t.eq_infinite_or_ofRat
  · exact ⟨1, one_pos, le_infinite _⟩
  · exact ⟨q, zero_lt_ofRat.mp h, Chronological.le_refl _⟩

lemma add_mono {s t u w : Extended} (h : s ≤ t) (h' : u ≤ w) : s + u ≤ t + w :=
  @add_le_add (WithTop ℚ) _ _ _ _ _ _ _ _ h h'

lemma le_mul_of_one_le {x y : WithTop ℚ} (hx : 0 < x) (hy : 1 ≤ y) : x ≤ x * y := by
  cases y using WithTop.recTopCoe with
  | top =>
    rw [WithTop.mul_top hx.ne']
    exact le_top
  | coe r =>
    cases x using WithTop.recTopCoe with
    | top =>
      have hr : (r : WithTop ℚ) ≠ 0 := (zero_lt_one.trans_le hy).ne'
      rw [WithTop.top_mul hr]
    | coe q =>
      rw [← WithTop.coe_mul, WithTop.coe_le_coe]
      exact le_mul_of_one_le_right (le_of_lt (WithTop.coe_lt_coe.mp hx)) (WithTop.coe_le_coe.mp hy)

lemma one_le_power {x : WithTop ℚ} (h : 1 ≤ x) (n : Nat) : 1 ≤ power x n := by
  induction n with
  | zero => exact le_rfl
  | succ n ih => exact ih.trans (le_mul_of_one_le (zero_lt_one.trans_le ih) h)

lemma le_sub_of_add_le {q r : ℚ} {t : Extended} (h : ofRat (q + r) ≤ t) :
    ofRat r ≤ t - ofRat q := by
  obtain rfl | ⟨t, rfl⟩ := t.eq_infinite_or_ofRat
  · exact le_infinite _
  · rw [← ofRat_sub, ofRat_le_ofRat]
    linarith [ofRat_le_ofRat.mp h]

/-! ### Pauses -/

lemma later_ofRat (s t : ℚ) :
    TimeScale.later (ofRat s) (ofRat t) = ofRat (TimeScale.later s t) := by
  simp only [TimeScale.later, ofRat_lt_ofRat]
  exact (apply_ite ofRat _ _ _).symm

lemma earlier_ofRat (s t : ℚ) :
    TimeScale.earlier (ofRat s) (ofRat t) = ofRat (TimeScale.earlier s t) := by
  simp only [TimeScale.earlier, ofRat_lt_ofRat]
  exact (apply_ite ofRat _ _ _).symm

lemma pause_ofRat (t span : ℚ) :
    TimeScale.pause (ofRat t) (ofRat span) = ofRat (TimeScale.pause t span) := by
  simp only [TimeScale.pause, ofRat_le_zero, ← ofRat_add]
  exact (apply_ite ofRat _ _ _).symm

/-- A span that is not negative goes by. -/
lemma pause_of_nonneg (t : Extended) {span : Extended} (h : 0 ≤ span) :
    TimeScale.pause t span = t + span := by
  unfold TimeScale.pause
  split_ifs with hle
  · obtain rfl : span = 0 := @le_antisymm (WithTop ℚ) _ _ _ hle h
    exact (@add_zero (WithTop ℚ) _ t).symm
  · rfl

end Extended

/-! ### Deadlines -/

namespace Deadline

open Extended

variable {start timeout : ℚ}

lemma expired_starting_iff {t : Extended} :
    (starting (ofRat start) (ofRat timeout)).expired t = true ↔ ofRat (start + timeout) ≤ t := by
  simp [starting, expired, ofRat_add]

lemma not_expired_starting_iff {t : Extended} :
    (starting (ofRat start) (ofRat timeout)).expired t = false ↔ t < ofRat (start + timeout) := by
  rw [← Bool.not_eq_true, expired_starting_iff]
  exact not_le (α := WithTop ℚ)

lemma pause_starting_ofRat (t span : ℚ) :
    (starting (ofRat start) (ofRat timeout)).pause (ofRat t) (ofRat span)
      = ofRat ((starting start timeout).pause t span) := by
  simp only [pause, clip, remaining?, starting, Option.map_some, ← ofRat_zero, ← ofRat_add,
    ← ofRat_sub, later_ofRat, earlier_ofRat, pause_ofRat]

/-- An infinite pause ends where a pause of the time that remains does. -/
lemma pause_starting_infinite (t : ℚ) :
    (starting (ofRat start) (ofRat timeout)).pause (ofRat t) infinite
      = ofRat (max (start + timeout) t) := by
  have hclip : TimeScale.earlier infinite (ofRat (max 0 (start + timeout - t)))
      = ofRat (max 0 (start + timeout - t)) := if_pos (ofRat_lt_infinite _)
  simp only [pause, clip, remaining?, starting, Option.map_some, ← ofRat_zero, ← ofRat_add,
    ← ofRat_sub, later_ofRat, TimeScale.later_eq_max, hclip, pause_ofRat]
  rw [TimeScale.pause_of_nonneg t (le_max_left _ _), ← max_add_add_left, add_zero, add_sub_cancel,
    max_comm]

/-- A pause goes by if it ends before the deadline, and ends behind it otherwise. -/
lemma pause_cases (t : Extended) {span : Extended} (h : 0 < span) :
    let d := starting (ofRat start) (ofRat timeout)
    d.expired (t + span) = false ∧ d.pause t span = t + span ∨
      d.expired (t + span) = true ∧ d.expired (d.pause t span) = true := by
  intro d
  have hinfinite : d.expired infinite = true := expired_starting_iff.mpr (le_infinite _)
  obtain rfl | ⟨t, rfl⟩ := t.eq_infinite_or_ofRat
  · refine Or.inr ⟨hinfinite, ?_⟩
    have hpause : d.pause infinite span = infinite := by
      simp only [pause, TimeScale.pause, infinite_add, ite_self]
    rwa [hpause]
  obtain rfl | ⟨span, rfl⟩ := span.eq_infinite_or_ofRat
  · refine Or.inr ⟨?_, ?_⟩
    · rwa [add_infinite]
    · rw [pause_starting_infinite, expired_starting_iff, ofRat_le_ofRat]
      exact le_max_left _ _
  · have hpause := (starting start timeout).coe_pause t (le_of_lt (zero_lt_ofRat.mp h))
    rw [expiry_starting, ← WithTop.coe_max, ← WithTop.coe_min, WithTop.coe_inj] at hpause
    rw [pause_starting_ofRat, ← ofRat_add, hpause]
    rcases lt_or_ge (t + span) (start + timeout) with hlt | hle
    · refine Or.inl ⟨?_, ?_⟩
      · rw [← Bool.not_eq_true, expired_starting_iff, ofRat_le_ofRat]
        exact not_le.mpr hlt
      · rw [min_eq_left (le_max_of_le_left (le_of_lt hlt))]
    · refine Or.inr ⟨?_, ?_⟩
      · exact expired_starting_iff.mpr (ofRat_le_ofRat.mpr hle)
      · rw [expired_starting_iff, ofRat_le_ofRat]
        exact le_min hle (le_max_left _ _)

end Deadline

/-! ### Numbers of seconds -/

namespace Binary64

open Extended

lemma seconds_of_isFinite {x : Binary64} (h : x.isFinite = true) :
    x.seconds = ofRat (x.units / 2 ^ 1074) := if_pos h

lemma scale_pos : (0 : ℚ) < 2 ^ 1074 := pow_pos two_pos 1074

/-- What is greater than a finite number is greater in seconds. -/
lemma seconds_lt {x y : Binary64} (hx : x.isFinite = true) (h : x < y) :
    x.seconds < y.seconds := by
  rw [seconds_of_isFinite hx]
  cases x with
  | nan | infinite => cases hx
  | finite =>
    cases y with
    | nan => cases h
    | infinite => exact ofRat_lt_infinite _
    | finite =>
      rw [seconds_of_isFinite rfl, ofRat_lt_ofRat]
      exact div_lt_div_of_pos_right (Int.cast_lt.mpr (of_decide_eq_true h)) scale_pos

/-- What is a finite number at least is so in seconds. -/
lemma seconds_le {x y : Binary64} (hx : x.isFinite = true) (h : x ≤ y) :
    x.seconds ≤ y.seconds := by
  rw [seconds_of_isFinite hx]
  cases x with
  | nan | infinite => cases hx
  | finite =>
    cases y with
    | nan => cases h
    | infinite => exact le_infinite _
    | finite =>
      rw [seconds_of_isFinite rfl, ofRat_le_ofRat]
      exact div_le_div_of_nonneg_right (Int.cast_le.mpr (of_decide_eq_true h)) (le_of_lt scale_pos)

lemma seconds_pos {x : Binary64} (h : 0 < x) : 0 < x.seconds := by
  have hunits : (0 : Binary64).units = 0 := by decide +kernel
  have hzero : (0 : Binary64).seconds = ofRat 0 := by
    rw [seconds_of_isFinite rfl, hunits, Int.cast_zero, zero_div]
  exact ofRat_zero ▸ hzero ▸ seconds_lt rfl h

lemma one_le_seconds {x : Binary64} (h : ofNat 1 ≤ x) : ofRat 1 ≤ x.seconds := by
  have hfinite : (ofNat 1).isFinite = true := by decide +kernel
  have hunits : (ofNat 1).units = 2 ^ 1074 := by decide +kernel
  have hone : (ofNat 1).seconds = ofRat 1 := by
    rw [seconds_of_isFinite hfinite, hunits, Int.cast_pow, Int.cast_ofNat, div_self scale_pos.ne']
  exact hone ▸ seconds_le hfinite h

end Binary64

end Settle

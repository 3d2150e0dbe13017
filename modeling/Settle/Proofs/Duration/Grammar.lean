import Mathlib.Algebra.BigOperators.Group.List.Basic
import Settle.Duration
import Settle.Proofs.Clock.Exact
import Settle.Proofs.Number.Reading

/-!
# Durations by their grammar

A duration is written as a number or as a row of segments, each of which is a plain number and a
unit. Exactly these texts are read. They are read in one way only: a number ends otherwise than a
row does, and a row falls into segments in one way, since no segment begins with a letter.
-/

namespace Settle

namespace TimeUnit

def text : TimeUnit → Text
  | .millisecond => "ms"
  | .second      => "s"
  | .minute      => "m"
  | .hour        => "h"

variable {u : TimeUnit} {t r : Text}

/-- A unit is read in front of anything that does not make it longer. -/
lemma read?_text (hr : u = .minute → ∀ c ∈ r.head?, c ≠ CodePoint.ofChar 's') :
    read? (u.text ++ r) = some (u, r) := by
  cases u with
  | minute =>
    cases r with
    | nil => rfl
    | cons c r => exact if_neg (hr rfl c rfl)
  | _ => rfl

lemma eq_text_of_read? (h : read? t = some (u, r)) : t = u.text ++ r := by
  cases t with
  | nil => cases h
  | cons c t =>
    simp only [read?] at h
    split at h
    · next hm =>
      subst hm
      cases t with
      | nil =>
        cases h
        rfl
      | cons d t =>
        dsimp only at h
        split at h
        · next hs =>
          subst hs
          cases h
          rfl
        · cases h
          rfl
    · split at h
      · next hs =>
        subst hs
        cases h
        rfl
      · split at h
        · next hh =>
          subst hh
          cases h
          rfl
        · cases h

end TimeUnit

namespace Segment

/-- Digits, and perhaps a point and digits behind it. -/
inductive IsNumber : Text → Prop where
  | whole {ds : Text} (hne : ds ≠ []) (hds : ∀ d ∈ ds, d.isDecimal = true) : IsNumber ds
  | fraction {ds es : Text} (hne : ds ≠ []) (hds : ∀ d ∈ ds, d.isDecimal = true) (hne' : es ≠ [])
    (hes : ∀ d ∈ es, d.isDecimal = true) : IsNumber (ds ++ CodePoint.ofChar '.' :: es)

def text (s : Segment) : Text := s.number ++ s.unit.text

/-- The number of the segment is one. -/
def WellFormed (s : Segment) : Prop := IsNumber s.number

variable {s : Segment} {n t r : Text} {row : List Segment}

lemma splitNumber_eq (h : IsNumber n)
    (hr : ∀ c ∈ r.head?, ¬ c.isDecimal ∧ c ≠ CodePoint.ofChar '.') :
    splitNumber (n ++ r) = (n, r) := by
  have hstop : ∀ c ∈ r.head?, ¬ c.isDecimal := fun c hc => (hr c hc).1
  unfold splitNumber
  cases h with
  | whole hne hds =>
    rw [Text.takeWhile_row hds hstop, Text.dropWhile_row hds hstop]
    cases r with
    | nil => simp
    | cons c r => simp [(hr c rfl).2]
  | @fraction ds es hne hds hne' hes =>
    have hpoint : ∀ c ∈ (CodePoint.ofChar '.' :: (es ++ r)).head?, ¬ c.isDecimal := by
      rintro c ⟨⟩
      decide
    rw [List.append_assoc, List.cons_append, Text.takeWhile_row hds hpoint,
      Text.dropWhile_row hds hpoint]
    simp [Text.takeWhile_row hes hstop, Text.dropWhile_row hes hstop, hne']

lemma splitNumber_spec (h : t.takeWhile CodePoint.isDecimal ≠ []) :
    IsNumber (splitNumber t).1 ∧ (splitNumber t).1 ++ (splitNumber t).2 = t := by
  obtain ⟨ds, r, rfl, hds, hr⟩ := Text.exists_row CodePoint.isDecimal t
  unfold splitNumber
  rw [Text.takeWhile_row hds hr] at h ⊢
  rw [Text.dropWhile_row hds hr]
  cases r with
  | nil => exact ⟨.whole h hds, rfl⟩
  | cons c r =>
    dsimp only
    split
    · next hpoint =>
      obtain ⟨rfl, hne⟩ : c = CodePoint.ofChar '.' ∧ r.takeWhile CodePoint.isDecimal ≠ [] := by
        simpa [List.isEmpty_iff] using hpoint
      refine ⟨.fraction h hds hne fun d => List.mem_takeWhile_imp, ?_⟩
      rw [List.append_assoc, List.cons_append, List.takeWhile_append_dropWhile]
    · exact ⟨.whole h hds, rfl⟩

lemma IsNumber.head (h : IsNumber n) : ∃ d ds, n = d :: ds ∧ d.isDecimal = true := by
  cases h with
  | whole hne hds =>
    obtain ⟨d, ds, rfl⟩ := List.exists_cons_of_ne_nil hne
    exact ⟨d, ds, rfl, hds d List.mem_cons_self⟩
  | fraction hne hds hne' hes =>
    obtain ⟨d, ds, rfl⟩ := List.exists_cons_of_ne_nil hne
    exact ⟨d, _, rfl, hds d List.mem_cons_self⟩

lemma head?_unit (u : TimeUnit) (r : Text) :
    ∀ c ∈ (u.text ++ r).head?, ¬ c.isDecimal ∧ c ≠ CodePoint.ofChar '.' := by
  rintro c hc
  cases u <;> cases hc <;> decide

lemma read?_text (h : s.WellFormed)
    (hr : s.unit = .minute → ∀ c ∈ r.head?, c ≠ CodePoint.ofChar 's') :
    read? (s.text ++ r) = some (s, r) := by
  have hsplit : splitNumber (s.text ++ r) = (s.number, s.unit.text ++ r) := by
    rw [text, List.append_assoc]
    exact splitNumber_eq h (head?_unit s.unit r)
  obtain ⟨d, ds, hn, hd⟩ := h.head
  have hne : (List.takeWhile CodePoint.isDecimal (s.text ++ r)).isEmpty = false := by
    simp [text, hn, hd]
  rw [read?, hne, hsplit, TimeUnit.read?_text hr]
  rfl

lemma eq_text_of_read? (h : read? t = some (s, r)) : s.WellFormed ∧ t = s.text ++ r := by
  unfold read? at h
  split at h
  · cases h
  · next hne =>
    obtain ⟨⟨u, r⟩, hu, he⟩ := Option.map_eq_some_iff.mp h
    cases he
    obtain ⟨hnumber, happend⟩ := splitNumber_spec (by simpa using hne)
    refine ⟨hnumber, ?_⟩
    rw [text, List.append_assoc, ← TimeUnit.eq_text_of_read? hu, happend]

/-- A segment is read if there is one at the front, however long its unit is. -/
lemma read?_eq_none_iff :
    read? t = none ↔ ∀ (s : Segment) (r : Text), s.WellFormed → t ≠ s.text ++ r := by
  constructor
  · rintro hnone ⟨n, u⟩ r h rfl
    by_cases hr : u = .minute → ∀ c ∈ r.head?, c ≠ CodePoint.ofChar 's'
    · rw [read?_text h hr] at hnone
      cases hnone
    · push Not at hr
      obtain ⟨rfl, c, hc, rfl⟩ := hr
      obtain ⟨r, rfl⟩ : ∃ r', r = CodePoint.ofChar 's' :: r' := by
        cases r with
        | nil => cases hc
        | cons d r =>
          cases hc
          exact ⟨r, rfl⟩
      have hlonger :
          text ⟨n, .minute⟩ ++ CodePoint.ofChar 's' :: r = text ⟨n, .millisecond⟩ ++ r := by
        simp only [text, List.append_assoc]
        rfl
      have hread : read? (text ⟨n, .millisecond⟩ ++ r) = some (⟨n, .millisecond⟩, r) :=
        read?_text h nofun
      rw [hlonger, hread] at hnone
      cases hnone
  · intro h
    rw [Option.eq_none_iff_forall_ne_some]
    rintro ⟨s, r⟩ hread
    obtain ⟨hs, ht⟩ := eq_text_of_read? hread
    exact h s r hs ht

/-! ### Rows -/

/-- No row begins with a letter. -/
lemma head?_row (h : ∀ s ∈ row, s.WellFormed) :
    ∀ c ∈ (row.flatMap text).head?, c.isDecimal = true := by
  intro c hc
  cases row with
  | nil => cases hc
  | cons s row =>
    obtain ⟨d, ds, hn, hd⟩ := (h s List.mem_cons_self).head
    rw [List.flatMap_cons, text, hn] at hc
    cases hc
    exact hd

lemma readAll?_of_read? (h : read? t = some (s, r)) :
    readAll? t = (readAll? r).map (s :: ·) := by
  rw [readAll?.eq_def]
  split
  · next hempty =>
    rw [List.isEmpty_iff.mp hempty] at h
    cases h
  · split
    · next hnone =>
      rw [h] at hnone
      cases hnone
    · next hsome =>
      rw [h] at hsome
      cases hsome
      rfl

lemma readAll?_flatMap (h : ∀ s ∈ row, s.WellFormed) :
    readAll? (row.flatMap text) = some row := by
  induction row with
  | nil =>
    rw [readAll?.eq_def]
    rfl
  | cons s row ih =>
    obtain ⟨hs, hrow⟩ := List.forall_mem_cons.mp h
    have hread : read? (s.text ++ row.flatMap text) = some (s, row.flatMap text) := by
      refine read?_text hs fun _ c hc => ?_
      rintro rfl
      exact absurd (head?_row hrow _ hc) (by decide)
    rw [List.flatMap_cons, readAll?_of_read? hread, ih hrow, Option.map_some]

lemma flatMap_of_readAll? (h : readAll? t = some row) :
    (∀ s ∈ row, s.WellFormed) ∧ t = row.flatMap text := by
  fun_induction readAll? t generalizing row with
  | case1 t hempty =>
    cases h
    exact ⟨by simp, List.isEmpty_iff.mp hempty⟩
  | case2 => cases h
  | case3 t _ s r hread ih =>
    obtain ⟨row, hrow, rfl⟩ := Option.map_eq_some_iff.mp h
    obtain ⟨hs, rfl⟩ := eq_text_of_read? hread
    obtain ⟨hall, rfl⟩ := ih hrow
    exact ⟨List.forall_mem_cons.mpr ⟨hs, hall⟩, List.flatMap_cons.symm⟩

/-- A text is read as a row of segments exactly if it is spelled by them. -/
lemma readAll?_eq_some_iff :
    readAll? t = some row ↔ (∀ s ∈ row, s.WellFormed) ∧ t = row.flatMap text := by
  refine ⟨flatMap_of_readAll?, ?_⟩
  rintro ⟨h, rfl⟩
  exact readAll?_flatMap h

lemma flatMap_injective {row' : List Segment} (h : ∀ s ∈ row, s.WellFormed)
    (h' : ∀ s ∈ row', s.WellFormed) (he : row.flatMap text = row'.flatMap text) : row = row' := by
  have hread := readAll?_flatMap h
  rw [he, readAll?_flatMap h'] at hread
  exact (Option.some.inj hread).symm

/-! ### Ends -/

lemma last_row (hne : row ≠ []) :
    ∃ u : TimeUnit, (row.flatMap text).getLast? = u.text.getLast? := by
  obtain ⟨row, s, rfl⟩ := (List.eq_nil_or_concat row).resolve_left hne
  refine ⟨s.unit, ?_⟩
  have hunit : s.unit.text ≠ [] := by cases s.unit <;> decide
  rw [List.concat_eq_append, List.flatMap_append, List.flatMap_singleton, text,
    ← List.append_assoc, List.getLast?_append_of_ne_nil _ hunit]

/-- No row of segments is a number: it ends in a unit. -/
lemma not_denotes_row (hne : row ≠ []) (x : Binary64) :
    ¬ Literal.Denotes (row.flatMap text) x := by
  intro h
  obtain ⟨u, hlast⟩ := last_row hne
  have hend := h.last_eq
  rw [hlast] at hend
  cases u <;> exact absurd (hend _ rfl) (by decide)

lemma isTrimmed_row (h : ∀ s ∈ row, s.WellFormed) :
    Text.IsTrimmed CodePoint.isBlank (row.flatMap text) := by
  refine ⟨fun c hc => CodePoint.not_isBlank_of_isDecimal (head?_row h c hc), fun c hc => ?_⟩
  by_cases hne : row = []
  · subst hne
    cases hc
  · obtain ⟨u, hlast⟩ := last_row hne
    rw [hlast] at hc
    cases u <;> cases hc <;> decide

/-! ### Numbers -/

/-- The digits of a number as one natural number. -/
def digits (n : Text) : Nat := Literal.value (n.filter CodePoint.isDecimal)

/-- How many digits stand behind the point. -/
def places (n : Text) : Nat := (n.dropWhile CodePoint.isDecimal).length - 1

lemma digits_row {ds : Text} (hne : ds ≠ []) (hds : ∀ d ∈ ds, d.isDecimal = true) :
    Literal.Digits ds ds := by
  induction ds with
  | nil => exact absurd rfl hne
  | cons d ds ih =>
    obtain ⟨hd, hrow⟩ := List.forall_mem_cons.mp hds
    by_cases hempty : ds = []
    · rw [hempty]
      exact .last hd
    · exact .next hd (ih hempty hrow)

lemma IsNumber.denotes (h : IsNumber n) :
    Literal.Denotes n (Binary64.ofDecimal false (digits n) (0 - places n)) := by
  have hmantissa : ∃ ds, Literal.Mantissa n ds (places n) ∧ ds = n.filter CodePoint.isDecimal := by
    have hpoint : (CodePoint.ofChar '.').isDecimal = false := by decide
    cases h with
    | whole hne hds =>
      refine ⟨n, ?_, (List.filter_eq_self.mpr hds).symm⟩
      have hdrop : n.dropWhile CodePoint.isDecimal = [] := List.dropWhile_eq_nil_iff.mpr hds
      rw [places, hdrop]
      exact .whole (digits_row hne hds)
    | @fraction ds es hne hds hne' hes =>
      refine ⟨ds ++ es, ?_, ?_⟩
      · have hdrop : (ds ++ CodePoint.ofChar '.' :: es).dropWhile CodePoint.isDecimal
            = CodePoint.ofChar '.' :: es :=
          Text.dropWhile_row hds (by rintro c ⟨⟩; decide)
        rw [places, hdrop]
        exact .mixed (digits_row hne hds) (digits_row hne' hes)
      · rw [List.filter_append, List.filter_eq_self.mpr hds, List.filter_cons, hpoint,
          if_neg Bool.false_ne_true, List.filter_eq_self.mpr hes]
  obtain ⟨ds, hm, rfl⟩ := hmantissa
  have hdenotes := Literal.Denotes.decimal .absent hm .absent
  rwa [List.append_nil, List.nil_append] at hdenotes

lemma IsNumber.not_isBlank (h : IsNumber n) : ∀ c ∈ n, ¬ c.isBlank := by
  have hrow : ∀ {ds : Text}, (∀ d ∈ ds, d.isDecimal = true) → ∀ c ∈ ds, ¬ c.isBlank :=
    fun hds c hc => CodePoint.not_isBlank_of_isDecimal (hds c hc)
  cases h with
  | whole hne hds => exact hrow hds
  | fraction hne hds hne' hes =>
    rw [List.forall_mem_append, List.forall_mem_cons]
    exact ⟨hrow hds, by decide, hrow hes⟩

lemma IsNumber.isTrimmed (h : IsNumber n) : Text.IsTrimmed CodePoint.isBlank n :=
  ⟨fun c hc => h.not_isBlank c (List.mem_of_mem_head? hc),
    fun c hc => h.not_isBlank c (List.mem_of_getLast? hc)⟩

/-- The seconds of a segment are its number, rounded, times those of its unit. -/
lemma WellFormed.seconds_eq (h : s.WellFormed) : s.seconds =
    Binary64.ofDecimal false (digits s.number) (0 - places s.number) * s.unit.seconds := by
  rw [seconds, (Binary64.ofText?_eq_some_iff h.isTrimmed).mpr h.denotes, Option.getD_some]

end Segment

/-- The seconds to the unit, exactly. -/
def TimeUnit.exact : TimeUnit → ℚ
  | .millisecond => 1 / 1000
  | .second      => 1
  | .minute      => 60
  | .hour        => 3600

/-- The seconds of a segment, exactly. -/
def Segment.exact (s : Segment) : ℚ := digits s.number / 10 ^ places s.number * s.unit.exact

namespace Duration

open Segment

/-- The sum over a row of segments, added from the left on any scale of time. -/
def sum {τ : Type} [TimeScale τ] (seconds : Segment → τ) (row : List Segment) : τ :=
  row.foldl (fun acc s => acc + seconds s) 0

/-- The row of segments that spells a text. -/
structure Spells (row : List Segment) (t : Text) : Prop where
  ne_nil     : row ≠ []
  wellFormed : ∀ s ∈ row, s.WellFormed
  text_eq    : t = row.flatMap Segment.text

variable {t : Text} {x : Binary64} {row row' : List Segment}

lemma sum_append_exact (a b : List Segment) :
    sum Segment.exact (a ++ b) = sum Segment.exact a + sum Segment.exact b := by
  have hsum : ∀ row, sum Segment.exact row = (row.map Segment.exact).sum := by
    intro row
    rw [List.sum_eq_foldl, List.foldl_map]
    rfl
  rw [hsum, hsum, hsum, List.map_append, List.sum_append]

lemma Spells.not_denotes (h : Spells row t) (x : Binary64) : ¬ Literal.Denotes t x := by
  obtain ⟨hne, -, rfl⟩ := h
  exact not_denotes_row hne x

lemma Spells.unique (h : Spells row t) (h' : Spells row' t) : row = row' :=
  flatMap_injective h.wellFormed h'.wellFormed (h.text_eq.symm.trans h'.text_eq)

lemma Spells.append {u : Text} (h : Spells row t) (h' : Spells row' u) :
    Spells (row ++ row') (t ++ u) := by
  obtain ⟨hne, hall, rfl⟩ := h
  obtain ⟨-, hall', rfl⟩ := h'
  exact ⟨by simp [hne], List.forall_mem_append.mpr ⟨hall, hall'⟩, List.flatMap_append.symm⟩

lemma Spells.trim_eq (h : Spells row t) : t.trim CodePoint.isBlank = t := by
  obtain ⟨-, hall, rfl⟩ := h
  exact (isTrimmed_row hall).trim_eq

/-- What a text denotes, as a number or as a row of segments. -/
inductive Denotes (t : Text) : Binary64 → Prop where
  | number {x : Binary64} (h : Literal.Denotes t x) : Denotes t x
  | row {row : List Segment} (h : Spells row t) : Denotes t (total row)

lemma seconds?_eq_some_iff :
    seconds? t = some x ↔ Denotes (t.trim CodePoint.isBlank) x := by
  have htrim := Text.isTrimmed_trim CodePoint.isBlank t
  unfold seconds?
  dsimp only
  generalize t.trim CodePoint.isBlank = body at htrim
  cases hbody : Binary64.ofText? body with
  | some y =>
    have hnumber := (Binary64.ofText?_eq_some_iff htrim).mp hbody
    constructor
    · rintro ⟨⟩
      exact .number hnumber
    · rintro (h | h)
      · exact hbody.symm.trans ((Binary64.ofText?_eq_some_iff htrim).mpr h)
      · exact absurd hnumber (h.not_denotes y)
  | none =>
    have hnumber : ∀ y, ¬ Literal.Denotes body y := by
      intro y hy
      rw [(Binary64.ofText?_eq_some_iff htrim).mpr hy] at hbody
      cases hbody
    constructor
    · intro h
      split_ifs at h with hempty
      obtain ⟨row, hrow, rfl⟩ := Option.map_eq_some_iff.mp h
      obtain ⟨hall, htext⟩ := readAll?_eq_some_iff.mp hrow
      refine .row ⟨?_, hall, htext⟩
      rintro rfl
      exact hempty (by rw [htext]; rfl)
    · rintro (h | ⟨hne, hall, rfl⟩)
      · exact absurd h (hnumber x)
      · rw [if_neg, readAll?_flatMap hall, Option.map_some]
        obtain ⟨u, hlast⟩ := last_row hne
        intro hempty
        rw [List.isEmpty_iff.mp hempty] at hlast
        cases u <;> cases hlast

lemma ofDocument_eq_ok_iff :
    ofDocument (.str t) = .ok x ↔ Denotes (t.trim CodePoint.isBlank) x := by
  rw [← seconds?_eq_some_iff, ofDocument]
  cases seconds? t <;> simp

lemma ofDocument_of_not_denotes (h : ∀ x, ¬ Denotes (t.trim CodePoint.isBlank) x) :
    ofDocument (.str t) = .error (.invalid
      ("invalid duration " ++ t.quoted ++ ", expected e.g. '30s', '10m' or '1h30m'")) := by
  have hnone : seconds? t = none :=
    Option.eq_none_iff_forall_ne_some.mpr fun x hx => h x (seconds?_eq_some_iff.mp hx)
  rw [ofDocument, hnone]

lemma Spells.ofDocument_eq (h : Spells row t) : ofDocument (.str t) = .ok (total row) := by
  rw [ofDocument_eq_ok_iff, h.trim_eq]
  exact .row h

/-- A text is read as a duration if it is a number or a row of segments between blanks, and
refused if it is neither. It is never both, and a row in one way only. Its seconds are those of its
segments, added from the left. Two rows in succession are a row, of the seconds of both but for
rounding. -/
theorem reads_numbers_and_rows :
    (∀ t, (∃ x, ofDocument (.str t) = .ok x) ↔
      (∃ x, Literal.Denotes (t.trim CodePoint.isBlank) x) ∨
        ∃ row, Spells row (t.trim CodePoint.isBlank)) ∧
    (∀ t x, ofDocument (.str t) = .ok x ↔ Denotes (t.trim CodePoint.isBlank) x) ∧
    (∀ t, (∀ x, ¬ Denotes (t.trim CodePoint.isBlank) x) → ofDocument (.str t) = .error (.invalid
      ("invalid duration " ++ t.quoted ++ ", expected e.g. '30s', '10m' or '1h30m'"))) ∧
    (∀ t row, Spells row t → ∀ x, ¬ Literal.Denotes t x) ∧
    (∀ t row row', Spells row t → Spells row' t → row = row') ∧
    (∀ t row, Spells row t → ofDocument (.str t) = .ok (sum Segment.seconds row) ∧
      ∀ s ∈ row, s.seconds = Binary64.ofDecimal false (digits s.number) (0 - places s.number)
        * s.unit.seconds) ∧
    (∀ t u a b, Spells a t → Spells b u →
      ofDocument (.str (t ++ u)) = .ok (sum Segment.seconds (a ++ b)) ∧
        sum Segment.exact (a ++ b) = sum Segment.exact a + sum Segment.exact b) := by
  refine ⟨fun t => ?_, fun t x => ofDocument_eq_ok_iff, fun t => ofDocument_of_not_denotes,
    fun t row h => h.not_denotes, fun t row row' => Spells.unique, fun t row h => ?_,
    fun t u a b ha hb => ?_⟩
  · simp only [ofDocument_eq_ok_iff]
    constructor
    · rintro ⟨x, h | h⟩
      exacts [Or.inl ⟨x, h⟩, Or.inr ⟨_, h⟩]
    · rintro (⟨x, h⟩ | ⟨row, h⟩)
      exacts [⟨x, .number h⟩, ⟨_, .row h⟩]
  · exact ⟨h.ofDocument_eq, fun s hs => (h.wellFormed s hs).seconds_eq⟩
  · exact ⟨(ha.append hb).ofDocument_eq, sum_append_exact a b⟩

lemma spells_singleton {n : Text} (u : TimeUnit) (hne : n ≠ [])
    (hn : ∀ d ∈ n, d.isDecimal = true) : Spells [⟨n, u⟩] (n ++ u.text) :=
  ⟨List.cons_ne_nil _ _, List.forall_mem_singleton.mpr (.whole hne hn), by simp [Segment.text]⟩

theorem hourAndMillisecond_are_read :
    Spells [⟨"1", .hour⟩] "1h" ∧ (∀ row, Spells row "1ms" ↔ row = [⟨"1", .millisecond⟩]) ∧
      ofDocument (.str "1h1ms") = .ok (Binary64.ofDecimal false 3600001 (-3)) ∧
      sum Segment.exact [⟨"1", .hour⟩, ⟨"1", .millisecond⟩] = 3600 + 1 / 1000 := by
  have hone : ∀ d ∈ ("1" : Text), d.isDecimal = true := by
    rintro d (_ | ⟨_, ⟨⟩⟩)
    decide
  have hhour : Spells [⟨"1", .hour⟩] "1h" := spells_singleton .hour (by decide) hone
  have hmilli : Spells [⟨"1", .millisecond⟩] "1ms" := spells_singleton .millisecond (by decide) hone
  obtain ⟨-, -, -, -, hunique, -, happend⟩ := reads_numbers_and_rows
  obtain ⟨hread, hexact⟩ := happend _ _ _ _ hhour hmilli
  refine ⟨hhour, fun row => ⟨fun h => hunique _ _ _ h hmilli, ?_⟩, ?_, ?_⟩
  · rintro rfl
    exact hmilli
  · have hsum : sum Segment.seconds ([⟨"1", .hour⟩] ++ [⟨"1", .millisecond⟩])
        = Binary64.ofDecimal false 3600001 (-3) := by decide +kernel
    rw [← hsum]
    exact hread
  · have hparts : sum Segment.exact [⟨"1", .hour⟩] = 3600 ∧
        sum Segment.exact [⟨"1", .millisecond⟩] = 1 / 1000 := by decide +kernel
    rw [← hparts.1, ← hparts.2, ← hexact]
    rfl

end Duration

/-! ### Looking ahead -/

/-- The first segment in a text, wherever it stands, with what is before and behind it. -/
def Segment.find? : Text → Option (Text × Segment × Text)
  | []     => none
  | c :: t =>
    match read? (c :: t) with
    | some (s, r) => some ([], s, r)
    | none        => (find? t).map fun (before, s, r) => (c :: before, s, r)

/-- No segment begins before the one that is found. -/
lemma Segment.find?_leftmost {s : Segment} {t before r : Text}
    (h : find? t = some (before, s, r)) :
    s.WellFormed ∧ t = before ++ (s.text ++ r) ∧ ∀ (s' : Segment) (before' r' : Text),
      s'.WellFormed → t = before' ++ (s'.text ++ r') → before.length ≤ before'.length := by
  induction t generalizing before with
  | nil => cases h
  | cons c t ih =>
    rw [find?] at h
    split at h
    · next hread =>
      cases h
      obtain ⟨hs, ht⟩ := eq_text_of_read? hread
      exact ⟨hs, ht, fun _ _ _ _ _ => Nat.zero_le _⟩
    · next hnone =>
      obtain ⟨⟨before, s, r⟩, hfind, he⟩ := Option.map_eq_some_iff.mp h
      cases he
      obtain ⟨hs, rfl, hleft⟩ := ih hfind
      refine ⟨hs, rfl, fun s' before' r' hs' ht => ?_⟩
      cases before' with
      | nil => exact absurd ht (read?_eq_none_iff.mp hnone s' r' hs')
      | cons c' before' => exact Nat.succ_le_succ (hleft s' before' r' hs' (List.cons.inj ht).2)

lemma Segment.find?_at_front {s : Segment} {t r : Text} :
    find? t = some ([], s, r) ↔ read? t = some (s, r) := by
  cases t with
  | nil => exact iff_of_false nofun nofun
  | cons c t =>
    rw [find?]
    cases hread : read? (c :: t) with
    | some e => simp
    | none => simp

namespace Duration

/-- Looks for one segment after another, and stops at one that does not begin where the one before
it ends. Gives the sum so far and the text that is left. -/
def scan (acc : Binary64) (t : Text) : Binary64 × Text :=
  match _h : Segment.find? t with
  | some ([], s, r) => scan (acc + s.seconds) r
  | _               => (acc, t)
termination_by t.length
decreasing_by exact Segment.read?_length (Segment.find?_at_front.mp _h)

variable {acc : Binary64} {s : Segment} {t r : Text}

lemma scan_of_read? (h : Segment.read? t = some (s, r)) :
    scan acc t = scan (acc + s.seconds) r := by
  conv_lhs => rw [scan]
  split
  · next hfront =>
    rw [Segment.find?_at_front, h] at hfront
    cases hfront
    rfl
  · next hfront => exact absurd (Segment.find?_at_front.mpr h) (hfront s r)

lemma scan_of_not_read? (h : Segment.read? t = none) : scan acc t = (acc, t) := by
  rw [scan]
  split
  · next hfront =>
    rw [Segment.find?_at_front, h] at hfront
    cases hfront
  · rfl

/-- All of a text is scanned exactly if it is a row of segments, for the sum over the row. -/
lemma scan_eq (acc : Binary64) (t : Text) :
    (Segment.readAll? t).map (fun row => row.foldl (fun acc s => acc + s.seconds) acc) =
      if (scan acc t).2.isEmpty then some (scan acc t).1 else none := by
  fun_induction Segment.readAll? t generalizing acc with
  | case1 t hempty =>
    have hread : Segment.read? t = none := by
      rw [List.isEmpty_iff.mp hempty]
      rfl
    rw [scan_of_not_read? hread, if_pos hempty]
    rfl
  | case2 t hempty hread =>
    rw [scan_of_not_read? hread, if_neg hempty]
    rfl
  | case3 t hempty s r hread ih =>
    rw [scan_of_read? hread, ← ih, Option.map_map]
    rfl

/-- Looking ahead for segments takes no other texts than reading them where they have to begin. -/
theorem seconds?_eq_scan (t : Text) :
    seconds? t = (Binary64.ofText? (t.trim CodePoint.isBlank)).or
      (let (sum, rest) := scan 0 (t.trim CodePoint.isBlank)
       if !rest.isEmpty || (t.trim CodePoint.isBlank).isEmpty then none else some sum) := by
  unfold seconds?
  dsimp only
  generalize t.trim CodePoint.isBlank = body
  cases Binary64.ofText? body with
  | some x => rfl
  | none =>
    rw [Option.none_or]
    change (if body.isEmpty then none else (Segment.readAll? body).map fun row =>
      row.foldl (fun acc s => acc + s.seconds) 0) = _
    rw [scan_eq]
    cases body.isEmpty <;> cases (scan 0 body).2.isEmpty <;> rfl

end Duration

end Settle

import Settle.Proofs.Clock.Extended
import Settle.Proofs.Config.Accepted
import Settle.Proofs.Number.Sign
import Settle.Proofs.Poll.Timeline

/-!
# Deadlines of accepted timeouts

A timeout that is accepted is above zero, and so is the one that applies where none is given. The
deadline that it sets has passed exactly when nothing remains, stays so, and until then leaves
something of every pause. A wait for a state that is never shown therefore goes on in time, and a
finite timeout ends it.
-/

namespace Settle

namespace Timeouts

variable {d : Document} {ts : Timeouts}

lemma pos_of_read {x : Binary64} (h : read d = .ok (some x)) : 0 < x := by
  obtain ⟨seconds, -, habove⟩ := bind_eq_ok_iff.mp h
  obtain ⟨y, hy, hsome⟩ := bind_eq_ok_iff.mp habove
  cases hsome
  exact Read.lt_of_above hy

lemma pos_of_optional {name : Text} {es : List (Document × Document)} {x : Binary64}
    (h : Read.optional name none read es = .ok (some x)) : 0 < x := by
  rw [Read.optional, Checked.inside_eq_ok_iff] at h
  cases hd : Document.lookup name es with
  | none =>
    rw [hd] at h
    cases h
  | some d =>
    rw [hd] at h
    exact pos_of_read h

lemma defaultSeconds_pos : 0 < Binary64.ofNat defaultSeconds := by decide +kernel

/-- The timeout of every operation is above zero. -/
lemma of_pos (h : ofDocument d = .ok ts) (op : Operation) : 0 < ts.of op := by
  obtain ⟨es, -, hparts⟩ := bind_eq_ok_iff.mp h
  obtain ⟨r, hr, hts⟩ := bind_eq_ok_iff.mp hparts
  cases hts
  simp only [Checked.both_eq_ok_iff] at hr
  obtain ⟨hcreate, hupdate, hdelete⟩ := hr
  have hgiven : ∀ x, given? ⟨r.1, r.2.1, r.2.2⟩ op = some x → 0 < x := by
    intro x hx
    cases op with
    | create => exact pos_of_optional (hcreate.trans (congrArg _ hx))
    | update => exact pos_of_optional (hupdate.trans (congrArg _ hx))
    | delete => exact pos_of_optional (hdelete.trans (congrArg _ hx))
  rw [of]
  cases hx : given? ⟨r.1, r.2.1, r.2.2⟩ op with
  | none => exact defaultSeconds_pos
  | some x => exact hgiven x hx

end Timeouts

/-! ### Deadlines on the clock -/

namespace Deadline

variable {start timeout now : Binary64}

lemma expired_starting_iff_le :
    (starting start timeout).expired now = true ↔ start + timeout ≤ now :=
  decide_eq_true_iff

lemma expired_starting_of_le {later : Binary64}
    (h : (starting start timeout).expired now = true) (hle : now ≤ later) :
    (starting start timeout).expired later = true :=
  expired_starting_iff_le.mpr (Binary64.le_trans (expired_starting_iff_le.mp h) hle)

section Finite

variable (hstart : start.isFinite = true) (htimeout : 0 < timeout) (hnow : now.isFinite = true)
include hstart htimeout hnow

/-- Something remains until the deadline has passed, though the difference is rounded. -/
lemma remaining_pos_iff :
    0 < start + timeout - now ↔ (starting start timeout).expired now = false := by
  have hexpiry := Binary64.isNaN_add hstart (Binary64.isNaN_of_pos htimeout)
  rw [Binary64.sub_pos_iff hexpiry hnow,
    Binary64.lt_iff_not_le (Binary64.isNaN_of_isFinite hnow) hexpiry, ← expired_starting_iff_le,
    Bool.not_eq_true]

lemma remaining?_starting : (starting start timeout).remaining? now
    = some (if (starting start timeout).expired now then 0 else start + timeout - now) := by
  have hpos := remaining_pos_iff hstart htimeout hnow
  have hlater : (starting start timeout).remaining? now
    = some (TimeScale.later 0 (start + timeout - now)) := rfl
  rw [hlater, TimeScale.later]
  cases hexpired : (starting start timeout).expired now with
  | true => simp [hpos, hexpired]
  | false => simp [hpos, hexpired]

lemma expired_iff_remaining : (starting start timeout).expired now = true ↔
    (starting start timeout).remaining? now = some 0 := by
  have hpos := remaining_pos_iff hstart htimeout hnow
  rw [remaining?_starting hstart htimeout hnow]
  cases hexpired : (starting start timeout).expired now with
  | true => simp
  | false =>
    refine iff_of_false Bool.false_ne_true fun h => ?_
    have hzero : start + timeout - now = 0 := Option.some.inj h
    rw [hzero] at hpos
    cases hpos.mpr hexpired

lemma clip_pos (h : (starting start timeout).expired now = false) {span : Binary64}
    (hspan : 0 < span) : 0 < (starting start timeout).clip now span := by
  have hpos := (remaining_pos_iff hstart htimeout hnow).mpr h
  rw [clip, remaining?_starting hstart htimeout hnow, h, if_neg Bool.false_ne_true]
  simp only [TimeScale.earlier]
  split
  · exact hpos
  · exact hspan

/-- A pause ends at once if the deadline has passed, and else after a span above zero. -/
lemma pause_starting {span : Binary64} (hspan : 0 < span) :
    (starting start timeout).expired now = true ∧ (starting start timeout).pause now span = now ∨
      0 < (starting start timeout).clip now span ∧
        (starting start timeout).pause now span = now + (starting start timeout).clip now span := by
  have hclip := clip_pos hstart htimeout hnow
  rw [pause, TimeScale.pause]
  cases hexpired : (starting start timeout).expired now with
  | true =>
    refine Or.inl ⟨rfl, if_pos ?_⟩
    rw [clip, remaining?_starting hstart htimeout hnow, hexpired, if_pos rfl]
    simp only [TimeScale.earlier, if_pos hspan]
    rfl
  | false =>
    have hpos := hclip hexpired hspan
    refine Or.inr ⟨hpos, if_neg ?_⟩
    exact (Binary64.lt_iff_not_le rfl (Binary64.isNaN_of_pos hpos)).mp hpos

end Finite

end Deadline

/-! ### Waits -/

namespace Poll

/-- A wait that a read does not decide goes on behind the pause, and ends if the deadline has passed
by then. -/
lemma step_reading {τ : Type} [TimeScale τ] (p : Poll τ) {result : Except Failure Value}
    (h : p.target.judge result = none) (reply : Reply τ Value) (back : τ) :
    p.step reply (.reading back result) = (.ready (p.deadline.pause back p.interval), []) := by
  simp only [step, h]

lemma step_ready_of_expired {τ : Type} [TimeScale τ] (p : Poll τ) {now : τ}
    (h : p.deadline.expired now = true) (reply : Reply τ Value) :
    p.step reply (.ready now)
      = (.finished now (.error (.expired (p.target.reason p.name))), []) := by
  simp only [step, h, if_true]

/-- On exact times, each read of a wait begins later than the one before it. -/
lemma times_pairwise_lt {p : Poll ℚ} {source : Source ℚ Value} (h : p.Regular source) (now : ℚ)
    (k : Nat) :
    ((p.course source now k).events.filterMap (Event.timeOf? .read)).Pairwise (· < ·) := by
  rw [(onTime now h k).times, List.pairwise_map]
  exact List.pairwise_lt_range.imp fun hlt => h.readStart_strictMono hlt

end Poll

namespace Timeouts

/-- The timeout of every operation is above zero. On the clock its deadline has passed exactly when
nothing remains, stays so, and until then leaves something of every pause; so behind a read that
decides nothing a wait ends at once, as its deadline has passed, or pauses for a span above zero. On
exact times, reads that decide nothing begin one later than the other, and with a finite timeout the
wait ends at the deadline, or behind it with the last read that has begun before. -/
theorem deadline_progresses_and_fires {d : Document} {ts : Timeouts} (h : ofDocument d = .ok ts)
    (op : Operation) :
    0 < ts.of op ∧
    (∀ start : Binary64, start.isFinite = true →
      let deadline := Deadline.starting start (ts.of op)
      (∀ now, now.isFinite = true →
        (deadline.expired now = true ↔ deadline.remaining? now = some 0)) ∧
      (∀ now later, now ≤ later → deadline.expired now = true → deadline.expired later = true) ∧
      (∀ now span, now.isFinite = true → deadline.expired now = false → 0 < span →
        0 < deadline.clip now span) ∧
      ∀ p : Poll Binary64, p.deadline = deadline → 0 < p.interval →
        ∀ back result, back.isFinite = true → p.target.judge result = none → ∀ reply,
          (deadline.expired back = true ∧ p.step reply (.reading back result) = (.ready back, []) ∧
            p.step reply (.ready back)
              = (.finished back (.error (.expired (p.target.reason p.name))), [])) ∨
          0 < deadline.clip back p.interval ∧ p.step reply (.reading back result)
            = (.ready (back + deadline.clip back p.interval), [])) ∧
    ∀ (p : Poll ℚ) (source : Source ℚ Value) (start now : ℚ),
      p.deadline.expiry = (Extended.ofRat start + (ts.of op).seconds : Extended) →
      0 < p.interval → (∀ n, 0 ≤ (source n).delay) →
      (∀ n, p.target.judge (source n).result = none) →
      (∀ k, ((p.course source now k).events.filterMap (Event.timeOf? .read)).Pairwise (· < ·)) ∧
      ((ts.of op).isFinite = true → ∃ m, ∃ e : ℚ, p.deadline.expiry = e ∧
        (∀ n, p.TakesPlace source now n ↔ n < m) ∧
        p.EndsAt source now (max e (p.lastEnd source now m))
          (.error (.expired (p.target.reason p.name)))) := by
  have hpos := of_pos h op
  refine ⟨hpos, fun start hstart => ⟨fun now hnow => ?_, fun now later hle hexpired => ?_,
    fun now span hnow hexpired hspan => ?_,
    fun p hp hinterval back result hback hjudge reply => ?_⟩,
    fun p source start now hexpiry hinterval hdelay hjudge => ⟨?_, fun hfinite => ?_⟩⟩
  · exact Deadline.expired_iff_remaining hstart hpos hnow
  · exact Deadline.expired_starting_of_le hexpired hle
  · exact Deadline.clip_pos hstart hpos hnow hexpired hspan
  · rw [p.step_reading hjudge, hp]
    obtain ⟨hexpired, hpause⟩ | ⟨hclip, hpause⟩ :=
      Deadline.pause_starting hstart hpos hback hinterval
    · exact Or.inl ⟨hexpired, by rw [hpause], p.step_ready_of_expired (hp ▸ hexpired) reply⟩
    · exact Or.inr ⟨hclip, by rw [hpause]⟩
  · exact Poll.times_pairwise_lt ⟨hinterval, hdelay⟩ now
  · rw [Binary64.seconds_of_isFinite hfinite, ← Extended.ofRat_add] at hexpiry
    obtain ⟨m, htakes, hends⟩ :=
      Poll.exists_endsAt_expired ⟨hinterval, hdelay⟩ (fun n _ => hjudge n) hexpiry
    exact ⟨m, _, hexpiry, htakes, hends⟩

/-- A minute and a half to create an object, and no limit to its deletion. -/
def patientDocument : Document :=
  .map [(.str "create", .str "1m30s"), (.str "delete", .float (.infinite false))]

def patientTimeouts : Timeouts := ⟨some (.ofNat 90), none, some (.infinite false)⟩

lemma ofDocument_patientDocument : ofDocument patientDocument = .ok patientTimeouts := by
  have h : (ofDocument patientDocument).toOption = some patientTimeouts := by decide +kernel
  cases hd : ofDocument patientDocument with
  | error e =>
    rw [hd] at h
    cases h
  | ok ts =>
    rw [hd] at h
    exact congrArg Except.ok (Option.some.inj h)

/-- A wait for a removal that never comes, with the deadline of the minute and a half. -/
def vainPoll : Poll ℚ := ⟨.removal, "web", .starting 5 90, 2⟩

def vainSource : Source ℚ Value := fun _ => ⟨.ok (.map []), 1, []⟩

lemma vainPoll_expiry : vainPoll.deadline.expiry
    = (Extended.ofRat 5 + (patientTimeouts.of .create).seconds : Extended) := by
  have hfinite : (patientTimeouts.of .create).isFinite = true := by decide +kernel
  have hunits : (patientTimeouts.of .create).units = 90 * 2 ^ 1074 := by decide +kernel
  rw [Binary64.seconds_of_isFinite hfinite, hunits, Int.cast_mul, Int.cast_pow, Int.cast_ofNat,
    Int.cast_ofNat, mul_div_cancel_right₀ _ Binary64.scale_pos.ne']
  rfl

theorem vainPoll_expires :
    ofDocument patientDocument = .ok patientTimeouts ∧
      (Deadline.starting 0 (patientTimeouts.of .create)).remaining? (.ofNat 90) = some 0 ∧
      ∃ t : ℚ, 95 ≤ t ∧ vainPoll.EndsAt vainSource 5 t (.error (.expired "deletion of web")) := by
  obtain ⟨-, hclock, hwait⟩ := deadline_progresses_and_fires ofDocument_patientDocument .create
  refine ⟨ofDocument_patientDocument, ?_, ?_⟩
  · exact ((hclock 0 rfl).1 (.ofNat 90) (by decide +kernel)).mp (by decide +kernel)
  · obtain ⟨-, hends⟩ := hwait vainPoll vainSource 5 5 vainPoll_expiry two_pos
      (fun _ => zero_le_one) fun _ => rfl
    obtain ⟨m, e, he, -, hend⟩ := hends (by decide +kernel)
    have hninety : e = 95 := by
      rw [vainPoll, Deadline.expiry_starting, WithTop.coe_inj] at he
      linarith
    exact ⟨_, hninety ▸ le_max_left _ _, hend⟩

end Timeouts

end Settle

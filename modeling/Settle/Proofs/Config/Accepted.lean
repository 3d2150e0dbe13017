import Settle.Config.Settings
import Settle.Proofs.Except

/-!
# What accepted settings satisfy

A setting is what the source that decides gives for it, if that passes a check, or its default,
which passes the same check. So whatever the sources are, the spans of time in settings that are
accepted are above zero and the factor is one at least.
-/

namespace Settle

namespace Checked

variable {α β : Type}

lemma both_eq_ok_iff {x : Checked α} {y : Checked β} {r : α × β} :
    both x y = .ok r ↔ x = .ok r.1 ∧ y = .ok r.2 := by
  obtain ⟨a, b⟩ := r
  cases x with
  | ok => cases y <;> simp [both]
  | error e =>
    refine iff_of_false ?_ (by simp)
    cases e <;> rcases y with (_ | _) | _ <;> simp [both]

lemma inside_eq_ok_iff {x : Checked α} {p : Place} {a : α} : x.inside p = .ok a ↔ x = .ok a := by
  rcases x with (_ | _) | _ <;> simp [inside]

lemma ofAttempt_eq_ok_iff {x : Except Failure α} {a : α} : ofAttempt x = .ok a ↔ x = .ok a := by
  cases x with
  | ok => simp [ofAttempt]
  | error e => cases e <;> simp [ofAttempt, problem]

end Checked

lemma Read.lt_of_above {bound : Nat} {x y : Binary64} (h : above bound x = .ok y) :
    .ofNat bound < y := by
  unfold above at h
  split at h
  · next hlt =>
    cases h
    exact hlt
  · cases h

lemma Read.le_of_atLeast {bound : Nat} {x y : Binary64} (h : atLeast bound x = .ok y) :
    .ofNat bound ≤ y := by
  unfold atLeast at h
  split at h
  · next hle =>
    cases h
    exact hle
  · cases h

namespace Settings

/-- Settings with which waiting and retrying make sense. -/
structure Sound (s : Settings) : Prop where
  readInterval    : 0 < s.readInterval
  checkInterval   : 0 < s.checkInterval
  removalInterval : 0 < s.removalInterval
  initialInterval : 0 < s.initialInterval
  maxInterval     : 0 < s.maxInterval
  factor          : .ofNat 1 ≤ s.factor

lemma span_pos {d : Document} {x : Binary64} (h : span d = .ok x) : 0 < x := by
  obtain ⟨_, -, habove⟩ := bind_eq_ok_iff.mp h
  exact Read.lt_of_above habove

lemma one_le_growth {d : Document} {x : Binary64} (h : growth d = .ok x) : .ofNat 1 ≤ x := by
  obtain ⟨_, -, hle⟩ := bind_eq_ok_iff.mp h
  exact Read.le_of_atLeast hle

/-- What holds of the default and of all that passes the check holds of a setting. -/
lemma holds_of_read {α : Type} {P : α → Prop} {src : Sources} {s : Setting} {default a : α}
    {f : Document → Checked α} (hdefault : P default) (hf : ∀ d b, f d = .ok b → P b)
    (h : read src s default f = .ok a) : P a := by
  unfold read at h
  split at h
  · cases h
    exact hdefault
  · exact hf _ _ (Checked.inside_eq_ok_iff.mp h)

lemma default_sound : default.Sound := by constructor <;> decide +kernel

/-- Settings that are accepted make sense. -/
theorem sound_of_ofSources {homes : Text → Option Text} {src : Sources} {s : Settings}
    (h : ofSources homes src = .ok s) : s.Sound := by
  obtain ⟨r, hparts, hs⟩ := bind_eq_ok_iff.mp h
  cases hs
  simp only [Checked.both_eq_ok_iff] at hparts
  obtain ⟨-, ⟨hread, hcheck, hremoval⟩, ⟨-, hinitial, hmax, hfactor⟩, -⟩ := hparts
  have hspan : ∀ {w : Setting} {a b : Binary64}, 0 < a → read src w a span = .ok b → 0 < b :=
    fun ha => holds_of_read ha fun _ _ => span_pos
  refine ⟨hspan default_sound.readInterval hread, hspan default_sound.checkInterval hcheck,
    hspan default_sound.removalInterval hremoval, hspan default_sound.initialInterval hinitial,
    hspan default_sound.maxInterval hmax, ?_⟩
  exact holds_of_read default_sound.factor (fun _ _ => one_le_growth) hfactor

end Settings

end Settle

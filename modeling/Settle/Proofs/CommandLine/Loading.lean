import Settle.CommandLine.Plan
import Settle.Proofs.Config.Rejection
import Settle.Proofs.Yaml.Faults

/-!
# Loading a configuration

A file of a command is loaded, or is at fault. Most faults are accounted for: the configuration is
said to be at fault. A configuration that is loaded from a text can also fail in ways that are not
accounted for, exactly if the rules of a kind of scalars fail on one of that kind, or if a number is
beyond all limits. Without such a failure it is loaded or the fault is accounted for.
-/

namespace Settle

/-! ### Failures that are not accounted for -/

namespace Failure

/-- The failures of a document that loading does not account for. -/
def IsUnforeseen : Failure → Prop
  | .wrongType | .notMap | .overflow => True
  | .external k _ =>
    k = "KeyError" ∨ k = "IndexError" ∨ k = "AttributeError" ∨ k = "RecursionError"
  | _ => False

lemma not_isMisconfiguration {f : Failure} (h : f.IsUnforeseen) :
    (Halt.failed f).isMisconfiguration = false := by
  cases f with
  | wrongType | notMap | overflow => rfl
  | external k t =>
    obtain rfl | rfl | rfl | rfl := h
    all_goals rfl
  | _ => exact h.elim

end Failure

lemma Yaml.OfDocument.isMisconfiguration_or_isUnforeseen {f : Failure} (h : OfDocument f) :
    (Halt.failed f).isMisconfiguration = true ∨ f.IsUnforeseen := by
  cases f with
  | malformed | invalid => exact Or.inl rfl
  | wrongType | overflow => exact Or.inr trivial
  | external => exact Or.inr h
  | _ => exact h.elim

/-- The failures of a text as a configuration that are not accounted for. -/
inductive Config.Unforeseen [CharacterNames] (t : Text) : Failure → Prop where
  /-- The rules of a kind fail on a scalar. -/
  | text {f : Failure} (hf : Document.ofYaml t = .error f) (h : f.IsUnforeseen) : Unforeseen t f
  /-- A number is beyond all limits. -/
  | number {d : Document} (hd : Document.ofYaml t = .ok d) (h : IsOversized d) :
      Unforeseen t .overflow

/-! ### Loading -/

/-- How loading ends, if it may fail in ways that are not accounted for. -/
inductive Loads {α : Type} (p : Failure → Prop) : Except Halt α → Prop where
  | loaded (h : ∀ f, ¬ p f) (a : α) : Loads p (.ok a)
  | halted (h : ∀ f, ¬ p f) {r : Halt} (hr : r.isMisconfiguration = true) : Loads p (.error r)
  | escaped {f : Failure} (h : p f) (hf : f.IsUnforeseen) : Loads p (.error (.failed f))

namespace Loads

variable {α β : Type} {p q : Failure → Prop} {x : Except Halt α}

lemma congr (h : Loads p x) (hpq : ∀ f, p f ↔ q f) : Loads q x :=
  (funext fun f => propext (hpq f) : p = q) ▸ h

lemma ok (a : α) : Loads (fun _ => False) (.ok a) := .loaded (fun _ => not_false) a

lemma invalid (message : Text) :
    Loads (fun _ => False) (.error (.failed (.invalid message)) : Except Halt α) :=
  .halted (fun _ => not_false) rfl

lemma ite {c : Prop} [Decidable c] {y : Except Halt α} (hx : Loads p x) (hy : Loads p y) :
    Loads p (if c then x else y) := by
  split
  · exact hx
  · exact hy

/-- A file that is loaded, and what is made of it. -/
lemma bind {q : α → Failure → Prop} {k : α → Except Halt β} (hx : Loads p x)
    (hk : ∀ a, x = .ok a → Loads (q a) (k a)) :
    Loads (fun f => p f ∨ ∃ a, x = .ok a ∧ q a f) (x >>= k) := by
  cases hx with
  | loaded h a => exact (hk a rfl).congr (by simp [h])
  | halted h hr => exact .halted (by simp [h]) hr
  | escaped h hf => exact .escaped (Or.inl h) hf

/-- A check that stops with an overflow in one case only. -/
lemma of_ends {p : Prop} {x : Checked α} (subject : Text) (h : Checked.Ends p x) :
    Loads (fun f => p ∧ f = .overflow) (x.mapError (.ofRejection subject)) := by
  cases h with
  | accepted h a => exact .loaded (by simp [h]) a
  | rejected h _ => exact .halted (by simp [h]) rfl
  | stopped h => exact .escaped ⟨h, rfl⟩ trivial

end Loads

/-- A text that is no document has a fault that is accounted for, or one that is not. -/
lemma Document.ofYaml_loads (t : Text) :
    Loads (fun f => ofYaml t = .error f ∧ f.IsUnforeseen) ((ofYaml t).mapError .failed) := by
  cases ht : ofYaml t with
  | ok d => exact .loaded (by simp) d
  | error f =>
    obtain hf | hf := (ofYaml_raises t f ht).isMisconfiguration_or_isUnforeseen
    · refine .halted ?_ hf
      rintro g ⟨hg, hunforeseen⟩
      cases hg
      exact absurd hf (by simp [Failure.not_isMisconfiguration hunforeseen])
    · exact .escaped ⟨rfl, hf⟩ hf

/-! ### Configurations -/

namespace Config

/-- A document with nothing in it holds no number that is beyond all limits. -/
lemma not_isOversized_of_isBlank [CharacterNames] {d : Document} (h : d.isBlank = true) :
    ¬ IsOversized d := by
  intro hoversized
  have hpart : ∃ name v, d.part? name = some v := by
    obtain ⟨_, hts, -, -⟩ | ⟨hb, -⟩ | ⟨hb, -⟩ := hoversized
    · exact ⟨_, _, hts⟩
    · exact ⟨_, _, hb⟩
    · exact ⟨_, _, hb⟩
  obtain ⟨name, v, hpart⟩ := hpart
  rw [Document.isBlank_of_part? hpart] at h
  cases h

lemma isOversized_orEmpty_iff [CharacterNames] {d : Document} :
    IsOversized (if d.isBlank then .map [] else d) ↔ IsOversized d := by
  by_cases hblank : d.isBlank = true
  · rw [if_pos hblank]
    exact iff_of_false (not_isOversized_of_isBlank rfl) (not_isOversized_of_isBlank hblank)
  · rw [if_neg hblank]

lemma ofYaml_loads [CharacterNames] (t subject : Text) :
    Loads (Unforeseen t) ((ofYaml t).mapError (.ofRejection subject)) := by
  have hdocument := fun d => Loads.of_ends subject
    ((ofDocument_ends (if d.isBlank then .map [] else d)).congr isOversized_orEmpty_iff)
  have hbind := (Document.ofYaml_loads t).bind fun d _ => hdocument d
  rw [ofYaml, mapError_bind, mapError_mapError]
  refine hbind.congr fun f => ?_
  constructor
  · rintro (⟨hf, h⟩ | ⟨d, hd, h, rfl⟩)
    · exact .text hf h
    · exact .number (mapError_eq_ok_iff.mp hd) h
  · rintro (⟨hf, h⟩ | ⟨hd, h⟩)
    · exact Or.inl ⟨hf, h⟩
    · exact Or.inr ⟨_, mapError_eq_ok_iff.mpr hd, h, rfl⟩

end Config

namespace Plan

lemma duration_loads (t : Text) :
    Loads (fun _ => False) ((Duration.ofDocument (.str t)).mapError Halt.failed) := by
  rw [Duration.ofDocument]
  split
  · exact .ok _
  · exact .invalid _

/-- The same number of seconds for every operation holds no integer. -/
lemma sameTimeouts_loads (seconds : Binary64) :
    Loads (fun _ => False) ((Timeouts.ofDocument (.map [(.str "create", .float seconds),
      (.str "update", .float seconds), (.str "delete", .float seconds)])).mapError
        (Halt.ofRejection "Timeouts")) := by
  refine (Loads.of_ends _ (Timeouts.ofDocument_ends _)).congr fun f => iff_of_false ?_ not_false
  rintro ⟨⟨op, d, hd, n, rfl, -⟩, -⟩
  cases op <;> cases hd

lemma configOf_loads [CharacterNames] (file? : Option File) (timeout? : Option Text) :
    Loads (fun f => ∃ file, file? = some file ∧ Config.Unforeseen file.text f)
      (configOf file? timeout?) := by
  unfold configOf
  extract_lets withTimeout
  have htimeout : ∀ c, Loads (fun _ => False) (withTimeout c) := by
    intro c
    cases timeout? with
    | none => exact .ok c
    | some t =>
      refine Loads.ite (.ok c) (Loads.congr ((duration_loads t).bind fun seconds _ =>
        (sameTimeouts_loads seconds).bind fun _ _ => .ok _) ?_)
      simp
  cases file? with
  | none => exact (htimeout Config.empty).congr (by simp)
  | some file =>
    refine Loads.congr ((Config.ofYaml_loads file.text _).bind fun c _ => htimeout c) ?_
    simp

end Plan

end Settle

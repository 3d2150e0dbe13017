import Settle.Proofs.Value.Scalar
import Settle.Rule

/-!
# Rules can be checked on every snapshot

No rule fails on a snapshot whose integers can be written: whole floating-point numbers are short
enough, values that are no scalars do not match, and whatever a condition holds can be shown.
-/

namespace Settle

namespace Rule

lemma exists_shownOr {missing : Text} {v? : Option Value} (h : ∀ v ∈ v?, v.Writable) :
    ∃ t, shownOr missing v? = .ok t := by
  cases v? with
  | none => exact ⟨missing, rfl⟩
  | some v =>
    obtain ⟨t, ht⟩ := (h v rfl).exists_shown
    exact ⟨t, by rw [shownOr, ht]; rfl⟩

lemma exists_shownOr_lookup {entry : List (Text × Value)} (h : (Value.map entry).Writable)
    (missing key : Text) : ∃ t, shownOr missing (Value.lookup key entry) = .ok t :=
  exists_shownOr fun _ hv => h.of_occurs (.entry (Value.mem_of_lookup hv) .whole)

lemma exists_ofEntry {entry : List (Text × Value)} (h : (Value.map entry).Writable)
    (resource type status : Text) (message? : Option Text) (foundType foundStatus : Text) :
    ∃ a, ofEntry resource type status message? entry foundType foundStatus = .ok a := by
  obtain ⟨reason, hreason⟩ := exists_shownOr_lookup h [] "reason"
  obtain ⟨message, hmessage⟩ := exists_shownOr_lookup h [] "message"
  simp only [ofEntry, hreason, hmessage]
  rcases message? with _ | _ | ⟨c, t⟩ <;> exact ⟨_, rfl⟩

lemma exists_findEntry {entries : List Value} (h : ∀ v ∈ entries, v.Writable)
    (resource type status : Text) (message? : Option Text) :
    ∃ found, findEntry resource type status message? entries = .ok found := by
  induction entries with
  | nil => exact ⟨none, rfl⟩
  | cons v entries ih =>
    have hrest := ih fun w hw => h w (List.mem_cons_of_mem v hw)
    cases v with
    | map entry =>
      have hentry := h _ List.mem_cons_self
      obtain ⟨type', htype⟩ := exists_shownOr_lookup hentry [] "type"
      obtain ⟨status', hstatus⟩ := exists_shownOr_lookup hentry [] "status"
      obtain ⟨a, ha⟩ := exists_ofEntry hentry resource type status message? type' status'
      simp only [findEntry, htype, hstatus, ha, bind, Except.bind, pure, Except.pure]
      split
      · exact ⟨_, rfl⟩
      · exact hrest
    | _ => exact hrest

variable {object : Value} (h : object.Writable)
include h

lemma exists_check (resource : Text) (r : Rule) : ∃ found, r.check resource object = .ok found := by
  cases r with
  | field key path value pattern message? =>
    rw [check]
    split
    · exact ⟨_, rfl⟩
    · exact ⟨_, rfl⟩
    · next v _ hv =>
      have hscalar := (h.walk hv).scalarText_ne_tooLong .shortest
      split
      · exact ⟨_, rfl⟩
      · next htext => exact absurd htext hscalar
      · split <;> exact ⟨_, rfl⟩
  | condition type status message? =>
    rw [check]
    split
    · next entries hentries =>
      exact exists_findEntry (fun v hv => (h.walk hentries).of_occurs (.item hv .whole)) ..
    · exact ⟨_, rfl⟩

/-- Rules do not fail on a snapshot that can be written. -/
theorem exists_firstMatch (resource : Text) (rules : List Rule) :
    ∃ found, firstMatch resource object rules = .ok found := by
  induction rules with
  | nil => exact ⟨none, rfl⟩
  | cons r rules ih =>
    obtain ⟨found, hfound⟩ := exists_check h resource r
    simp only [firstMatch, hfound, bind, Except.bind]
    cases found with
    | none => exact ih
    | some a => exact ⟨some a, rfl⟩

end Rule

end Settle

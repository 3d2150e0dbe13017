import Settle.CommandLine.Rehearsal
import Settle.Proofs.CommandLine.Planning

/-!
# Commands whose files are at fault

A command that writes loads its files, finds credentials and looks the kind up before it reads or
writes anything. A file that is at fault ends it with a complaint about the configuration, and so
does a kind that there is not. A fault that is not accounted for escapes instead, and then nothing
at all has been asked of the cluster.
-/

namespace Settle

/-- The surroundings have credentials, and know every kind or say that there is none. -/
structure Surroundings.Answers (around : Surroundings) (s : Settings) : Prop where
  credentials : ∃ found, (Credentials.find s around.credentials).outcome = .ok found
  lookUp (version kind : Document) :
    (∃ namespaced, around.lookUp version kind = .ok namespaced) ∨
      ∃ t, around.lookUp version kind = .error (.external "ResourceNotFoundError" t)

/-- Comes before anything is read or written. -/
def Request.IsPreparation : Request → Prop
  | .credentials _ | .lookup .. => True
  | _ => False

/-- An end with a complaint about the configuration, before anything is read or written. -/
structure Report.RefusesConfiguration (r : Report) : Prop where
  code_eq      : r.code = 3
  complaint_eq : ∃ t : Text, r.complaint? = some ("Invalid configuration: " ++ t)
  output_eq    : r.output? = none
  escaped_eq   : r.escaped? = none
  untouched    : ∀ q ∈ r.requests, q.IsPreparation

/-- A halt for a configuration at fault is a complaint. -/
lemma Report.halting_refuses {r : Report} {h : Halt} (hh : h.isMisconfiguration = true)
    (houtput : r.output? = none) (hescaped : r.escaped? = none)
    (hrequests : ∀ q ∈ r.requests, q.IsPreparation) :
    (r.halting h).RefusesConfiguration := by
  rw [Report.halting, if_pos hh]
  exact ⟨rfl, ⟨h.text, rfl⟩, houtput, hescaped, hrequests⟩

namespace Command

variable {c : Command} {manifest : File} {config? : Option File} {timeout? : Option Text}
  {task : Document → Task}

lemma run_of_escaped [CharacterNames] {around : Surroundings} {s : Settings} {f : Failure}
    (h : Plan.ofCommand s c = .error (.failed f)) (hf : f.IsUnforeseen) (fuel : Nat) :
    run around s fuel c = some (Report.empty.escaping (.failed f)) := by
  rw [run, h]
  simp [Report.halting, Failure.not_isMisconfiguration hf, Halt.rejection]

/-- With a plan, the kind is looked up, and the plan is carried out if the kind is there. -/
lemma run_of_plan [CharacterNames] {around : Surroundings} {s : Settings}
    (haround : around.Answers s) {p : Plan} (h : Plan.ofCommand s c = .ok p) (fuel : Nat) :
    (∃ r, run around s fuel c = some r ∧ r.RefusesConfiguration) ∨
      ∃ (r : Report) (namespaced : Bool), (∀ q ∈ r.requests, q.IsPreparation) ∧
        let p' : Plan := { p with resource := p.resource.within namespaced }
        run around s fuel c
          = (p'.run s around.reads around.stores around.removals fuel).map (r.concluding p') := by
  obtain ⟨found, hfound⟩ := haround.credentials
  let search := Credentials.find s around.credentials
  let r := (Report.empty.after (search.attempts.map .credentials) search.notices).after
    [.lookup p.resource.version p.resource.kind] []
  have hrequests : ∀ q ∈ r.requests, q.IsPreparation := by
    simp [r, Report.after, Report.empty, or_imp, forall_and, Request.IsPreparation]
  obtain ⟨namespaced, hlookUp⟩ | ⟨t, hlookUp⟩ :=
    haround.lookUp p.resource.version p.resource.kind
  · refine Or.inr ⟨r, namespaced, hrequests, ?_⟩
    simp only [run, h, hfound, hlookUp]
    rfl
  · refine Or.inl ⟨r.halting (.failed (.external "ResourceNotFoundError" t)), ?_,
      Report.halting_refuses rfl rfl rfl hrequests⟩
    simp only [run, h, hfound, hlookUp]
    rfl

/-- A manifest whose metadata are a text. -/
def textualMetadata : File :=
  ⟨.ofText "m.json", "\x7b\"apiVersion\": \"v1\", \"kind\": \"Pod\", \"metadata\": \"web\"\x7d"⟩

/-- Surroundings with credentials in a file and a server that knows every kind. -/
def usualSurroundings : Surroundings := Rehearsal.surroundings .null

lemma usualSurroundings_answers : usualSurroundings.Answers .default where
  credentials := ⟨_, rfl⟩
  lookUp _ _ := Or.inl ⟨true, rfl⟩

lemma textualMetadata_writes :
    Writes (.apply textualMetadata none .create) textualMetadata none none
      fun m => .store m .create :=
  .apply _ _ (by decide)

/-- The document is a text with something in it. -/
def isWords : Document → Bool
  | .str t => !t.isEmpty
  | _      => false

lemma exists_textualMetadata :
    ∃ m, Document.ofYaml textualMetadata.text = .ok m ∧ Manifest.hasKind m = true ∧
      Manifest.HasOddMetadata m := by
  have hchecked : (Document.ofYaml textualMetadata.text).toOption.any (fun m =>
      Manifest.hasKind m && (m.part? "metadata").any isWords) = true := by
    decide +kernel
  cases hm : Document.ofYaml textualMetadata.text with
  | error f =>
    rw [hm] at hchecked
    cases hchecked
  | ok m =>
    simp only [hm, Except.toOption, Option.any_some, Bool.and_eq_true, Option.any_eq_true]
      at hchecked
    obtain ⟨hkind, d, hd, htext⟩ := hchecked
    cases d with
    | str t =>
      have hgiven : (Document.str t).isBlank = false := by
        simpa [isWords, Document.isBlank] using htext
      exact ⟨m, rfl, hkind, .str t, hd, hgiven, by simp⟩
    | _ => cases htext

lemma unforeseen_textualMetadata_iff [CharacterNames] {f : Failure} :
    Unforeseen textualMetadata none none f ↔ f = .notMap := by
  obtain ⟨m, hm, hkind, hodd⟩ := exists_textualMetadata
  constructor
  · rintro (⟨_, hfile, -⟩ | ⟨-, h⟩)
    · cases hfile
    · cases h with
      | text hf =>
        rw [hm] at hf
        cases hf
      | metadata => rfl
  · rintro rfl
    exact Or.inr ⟨⟨_, rfl⟩, .metadata hm hkind hodd⟩

end Command

end Settle

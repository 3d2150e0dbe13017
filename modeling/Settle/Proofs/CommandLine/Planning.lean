import Settle.Proofs.CommandLine.Loading

/-!
# Plans of commands that write

A manifest that is accepted describes an object: it has a version, a kind, and a name that is not
blank in its metadata. Metadata that are neither blank nor a map are not accounted for. A command
that writes has a plan for the object that its manifest describes, under the configuration that is
loaded for it, or its files are at fault.
-/

namespace Settle

/-! ### Manifests -/

namespace Manifest

/-- A manifest says of which version and kind its object is and how it is called. -/
structure Describes (m version kind name : Document) : Prop where
  version_eq : m.part? "apiVersion" = some version
  kind_eq    : m.part? "kind" = some kind
  name_eq    : ∃ about, m.part? "metadata" = some about ∧ about.part? "name" = some name
  name_given : name.isBlank = false

/-- The metadata are neither blank nor a map. -/
def HasOddMetadata (m : Document) : Prop :=
  ∃ d, m.part? "metadata" = some d ∧ d.isBlank = false ∧ ∀ es, d ≠ .map es

/-- The failures of a text as a manifest that are not accounted for. -/
inductive Unforeseen (t : Text) : Failure → Prop where
  /-- The rules of a kind fail on a scalar. -/
  | text {f : Failure} (hf : Document.ofYaml t = .error f) (h : f.IsUnforeseen) : Unforeseen t f
  /-- An object is described, but its metadata are neither blank nor a map. -/
  | metadata {m : Document} (hm : Document.ofYaml t = .ok m) (hkind : hasKind m = true)
      (hodd : HasOddMetadata m) : Unforeseen t .notMap

lemma hasOddMetadata_iff {m d : Document} (hd : m.part? "metadata" = some d)
    (hgiven : d.isBlank = false) : HasOddMetadata m ↔ ∀ es, d ≠ .map es := by
  constructor
  · rintro ⟨d', hd', -, hmap⟩
    obtain rfl : d = d' := Option.some.inj (hd.symm.trans hd')
    exact hmap
  · intro hmap
    exact ⟨d, hd, hgiven, hmap⟩

lemma exists_of_hasKind {m : Document} (h : hasKind m = true) :
    (∃ es, m.entries? = some es) ∧ (∃ version, m.part? "apiVersion" = some version) ∧
      ∃ kind, m.part? "kind" = some kind := by
  unfold hasKind at h
  unfold Document.part?
  cases hes : m.entries? with
  | none =>
    rw [hes] at h
    cases h
  | some es =>
    rw [hes] at h
    obtain ⟨hkind, hversion⟩ := Bool.and_eq_true_iff.mp h
    exact ⟨⟨es, rfl⟩, Option.isSome_iff_exists.mp hversion, Option.isSome_iff_exists.mp hkind⟩

lemma entryOrNull_of_entries {m : Document} {es : List (Document × Document)}
    (hes : m.entries? = some es) (key : Text) :
    entryOrNull key m = .ok ((m.part? key).getD .null) := by
  rw [entryOrNull, hes, Document.part?, hes]
  rfl

lemma metadata_of_blank {m : Document} {es : List (Document × Document)}
    (hes : m.entries? = some es) (h : ∀ d, m.part? "metadata" = some d → d.isBlank = true) :
    metadata m = .ok (.map []) := by
  have hblank : ((m.part? "metadata").getD .null).isBlank = true := by
    cases hd : m.part? "metadata" with
    | none => rfl
    | some d => exact h d hd
  rw [metadata, entryOrNull_of_entries hes, ok_bind, if_pos hblank]
  rfl

lemma metadata_of_given {m d : Document} (hd : m.part? "metadata" = some d)
    (hgiven : d.isBlank = false) : metadata m = .ok d := by
  obtain ⟨es, hes, -⟩ := Document.part?_eq_some_iff.mp hd
  rw [metadata, entryOrNull_of_entries hes, hd, ok_bind, Option.getD_some,
    if_neg (by simp [hgiven])]
  rfl

lemma ofDocument_of_hasKind {m : Document} (h : hasKind m = true) (location : Text) :
    ofDocument location m = metadata m >>= fun about => entryOrNull "name" about >>= fun name =>
      if name.isBlank then .error (.invalid (location ++ ": metadata.name is required"))
      else .ok m := by
  unfold ofDocument
  simp only [h, Bool.not_true]
  rfl

lemma ofDocument_of_not_hasKind {m : Document} (h : hasKind m = false) (location : Text) :
    ofDocument location m
      = .error (.invalid (location ++ " does not contain a Kubernetes object")) := by
  unfold ofDocument
  simp only [h]
  rfl

/-- Without metadata that are no map, a manifest describes an object or is at fault in a way that
is accounted for. -/
lemma ofDocument_loads (location : Text) (m : Document) :
    Loads (fun f => hasKind m = true ∧ HasOddMetadata m ∧ f = .notMap)
      ((ofDocument location m).mapError .failed) := by
  cases hkind : hasKind m with
  | false =>
    rw [ofDocument_of_not_hasKind hkind]
    exact (Loads.invalid _).congr (by simp)
  | true =>
    obtain ⟨⟨es, hes⟩, -, -⟩ := exists_of_hasKind hkind
    rw [ofDocument_of_hasKind hkind]
    by_cases hblank : ∀ d, m.part? "metadata" = some d → d.isBlank = true
    · have hnotOdd : ¬ HasOddMetadata m := by
        rintro ⟨d, hd, hgiven, -⟩
        simp [hblank d hd] at hgiven
      rw [metadata_of_blank hes hblank]
      exact (Loads.invalid _).congr (by simp [hnotOdd])
    · push Not at hblank
      obtain ⟨d, hd, hgiven⟩ := hblank
      have hgiven : d.isBlank = false := eq_false_of_ne_true hgiven
      rw [metadata_of_given hd hgiven, ok_bind]
      simp only [hasOddMetadata_iff hd hgiven]
      cases d with
      | map fs =>
        rw [entryOrNull_of_entries rfl, ok_bind]
        refine Loads.congr (p := fun _ => False) ?_ (by simp)
        split
        · exact .invalid _
        · exact .ok _
      | _ => exact .escaped (by simp) trivial

lemma entry_of_part? {key : Text} {m d : Document} (h : m.part? key = some d) :
    entry key m = .ok d := by
  obtain ⟨es, hes, hlookup⟩ := Document.part?_eq_some_iff.mp h
  rw [entry, hes]
  simp only [hlookup]

/-- What has a name that is not blank has it under the key. -/
lemma part?_of_entryOrNull {key : Text} {m d : Document} (h : entryOrNull key m = .ok d)
    (hgiven : d.isBlank = false) : m.part? key = some d := by
  cases hes : m.entries? with
  | none =>
    rw [entryOrNull, hes] at h
    cases h
  | some es =>
    rw [entryOrNull_of_entries hes, Except.ok.injEq] at h
    cases hpart : m.part? key with
    | none =>
      rw [hpart] at h
      subst h
      cases hgiven
    | some d' => rw [← h, hpart, Option.getD_some]

/-- A manifest that is accepted describes an object. -/
lemma describes_of_ofDocument {location : Text} {m m' : Document}
    (h : ofDocument location m = .ok m') :
    m' = m ∧ ∃ version kind name, Describes m version kind name := by
  cases hkind : hasKind m with
  | false =>
    rw [ofDocument_of_not_hasKind hkind] at h
    cases h
  | true =>
    obtain ⟨-, ⟨version, hversion_eq⟩, ⟨kind, hkind_eq⟩⟩ := exists_of_hasKind hkind
    rw [ofDocument_of_hasKind hkind] at h
    obtain ⟨about, habout, h⟩ := bind_eq_ok_iff.mp h
    obtain ⟨name, hname, h⟩ := bind_eq_ok_iff.mp h
    split at h
    · cases h
    · next hgiven =>
      cases h
      have hname := part?_of_entryOrNull hname (eq_false_of_ne_true hgiven)
      refine ⟨rfl, version, kind, name, hversion_eq, hkind_eq, ⟨about, ?_, hname⟩,
        eq_false_of_ne_true hgiven⟩
      obtain ⟨d, hd, h⟩ := bind_eq_ok_iff.mp habout
      -- blank metadata count as empty, and then there is no name
      split at h
      · cases h
        cases hname
      · next hmetadata =>
        cases h
        exact part?_of_entryOrNull hd (eq_false_of_ne_true hmetadata)

namespace Describes

variable {m version kind name : Document} (h : Describes m version kind name)

include h

/-- The name of an object that is described. -/
lemma name_eq_ok : Manifest.name m = .ok name := by
  obtain ⟨about, habout, hname⟩ := h.name_eq
  rw [Manifest.name, entry_of_part? habout, ok_bind, entry_of_part? hname]

/-- The resource of an object that is described. -/
lemma exists_resource (usual : Text) :
    ∃ scope, resource usual m = .ok ⟨version, kind, scope⟩ := by
  obtain ⟨about, habout, hname⟩ := h.name_eq
  obtain ⟨es, hes, -⟩ := Document.part?_eq_some_iff.mp hname
  rw [resource, metadata_of_given habout (Document.isBlank_of_part? hname), ok_bind,
    entry_of_part? h.version_eq, ok_bind, entry_of_part? h.kind_eq, ok_bind,
    entryOrNull_of_entries hes]
  exact ⟨_, rfl⟩

end Describes

end Manifest

namespace Plan

lemma manifestOf_loads (file : File) :
    Loads (Manifest.Unforeseen file.text) (manifestOf file) := by
  have hbind := (Document.ofYaml_loads file.text).bind fun m _ =>
    Manifest.ofDocument_loads file.location.text m
  rw [manifestOf, mapError_bind]
  refine hbind.congr fun f => ?_
  constructor
  · rintro (⟨hf, h⟩ | ⟨m, hm, hkind, hodd, rfl⟩)
    · exact .text hf h
    · exact .metadata (mapError_eq_ok_iff.mp hm) hkind hodd
  · rintro (⟨hf, h⟩ | ⟨hm, hkind, hodd⟩)
    · exact Or.inl ⟨hf, h⟩
    · exact Or.inr ⟨_, mapError_eq_ok_iff.mpr hm, hkind, hodd, rfl⟩

lemma describes_of_manifestOf {file : File} {m : Document} (h : manifestOf file = .ok m) :
    Document.ofYaml file.text = .ok m ∧ ∃ version kind name,
      Manifest.Describes m version kind name := by
  rw [manifestOf, mapError_eq_ok_iff, bind_eq_ok_iff] at h
  obtain ⟨m', hm', h⟩ := h
  obtain ⟨rfl, hdescribes⟩ := Manifest.describes_of_ofDocument h
  exact ⟨hm', hdescribes⟩

/-- There is a plan for an object that is described. -/
lemma exists_ofManifest (s : Settings) {m version kind name : Document}
    (h : Manifest.Describes m version kind name) (c : Config) (t : Task) :
    ∃ scope, ofManifest s m c t = .ok ⟨⟨version, kind, scope⟩, name, c, t⟩ := by
  obtain ⟨scope, hresource⟩ := h.exists_resource s.scope
  refine ⟨scope, ?_⟩
  rw [ofManifest, hresource, ok_bind, h.name_eq_ok, ok_bind]
  rfl

end Plan

/-! ### Commands that write -/

namespace Command

/-- A command that writes, with its files, its timeout, and what it does to a manifest. There is no
such command to apply a manifest for a deletion. -/
inductive Writes : Command → File → Option File → Option Text → (Document → Task) → Prop where
  | apply (manifest : File) (config? : Option File) {operation : Operation}
      (h : operation ≠ .delete) :
      Writes (.apply manifest config? operation) manifest config? none fun m => .store m operation
  | delete (manifest : File) (config? : Option File) (timeout? : Option Text)
      (propagation : Propagation) :
      Writes (.delete manifest config? timeout? propagation) manifest config? timeout? fun _ =>
        .remove propagation

/-- The failures of files that are not accounted for. The manifest is loaded only once there is a
configuration. -/
def Unforeseen [CharacterNames] (manifest : File) (config? : Option File) (timeout? : Option Text)
    (f : Failure) : Prop :=
  (∃ file, config? = some file ∧ Config.Unforeseen file.text f) ∨
    (∃ c, Plan.configOf config? timeout? = .ok c) ∧ Manifest.Unforeseen manifest.text f

variable {c : Command} {manifest : File} {config? : Option File} {timeout? : Option Text}
  {task : Document → Task}

lemma ofCommand_of_writes [CharacterNames] (s : Settings)
    (h : Writes c manifest config? timeout? task) :
    Plan.ofCommand s c = Plan.configOf config? timeout? >>= fun conf =>
      Plan.manifestOf manifest >>= fun m => Plan.ofManifest s m conf (task m) := by
  cases h with
  | apply _ _ h =>
    rw [Plan.ofCommand]
    simp only [h]
    rfl
  | delete => rfl

/-- The plan of a command that writes. -/
lemma ofCommand_loads [CharacterNames] (s : Settings)
    (h : Writes c manifest config? timeout? task) :
    Loads (Unforeseen manifest config? timeout?) (Plan.ofCommand s c) := by
  rw [ofCommand_of_writes s h]
  have hplan : ∀ conf m, Plan.manifestOf manifest = .ok m →
      Loads (fun _ => False) (Plan.ofManifest s m conf (task m)) := by
    intro conf m hm
    obtain ⟨-, version, kind, name, hdescribes⟩ := Plan.describes_of_manifestOf hm
    obtain ⟨scope, hofManifest⟩ := Plan.exists_ofManifest s hdescribes conf (task m)
    rw [hofManifest]
    exact .ok _
  refine Loads.congr ((Plan.configOf_loads config? timeout?).bind fun conf _ =>
    (Plan.manifestOf_loads manifest).bind fun m hm => hplan conf m hm) fun f => ?_
  simp [Unforeseen]

/-- What a plan of a command that writes is about. -/
lemma plan_of_writes [CharacterNames] {s : Settings} (h : Writes c manifest config? timeout? task)
    {p : Plan} (hp : Plan.ofCommand s c = .ok p) :
    Plan.configOf config? timeout? = .ok p.config ∧ ∃ m, Document.ofYaml manifest.text = .ok m ∧
      Manifest.Describes m p.resource.version p.resource.kind p.name ∧ p.task = task m := by
  rw [ofCommand_of_writes s h] at hp
  obtain ⟨conf, hconf, hp⟩ := bind_eq_ok_iff.mp hp
  obtain ⟨m, hm, hp⟩ := bind_eq_ok_iff.mp hp
  obtain ⟨hyaml, version, kind, name, hdescribes⟩ := Plan.describes_of_manifestOf hm
  obtain ⟨scope, hofManifest⟩ := Plan.exists_ofManifest s hdescribes conf (task m)
  obtain rfl := Except.ok.inj (hofManifest.symm.trans hp)
  exact ⟨hconf, m, hyaml, hdescribes, rfl⟩

end Command

end Settle

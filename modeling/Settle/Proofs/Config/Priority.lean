import Settle.Proofs.Config.Rejection

/-!
# Which source decides a setting

The sources of settings have an order. The first of them that gives a setting decides it: what it
gives is checked, and no other source counts, for this setting or for another one. Settings are
accepted if all of them pass on their own, else rejected with the issues of each. The location of
the kubeconfig is the one that may neither pass nor be an issue: what is no text, or begins with a
home that is not known, stops the check.
-/

namespace Settle

/-- Where settings are given. -/
inductive Origin where
  | given
  | environment
  | file

/-- The place in the order of sources, of which the first one decides. -/
def Origin.rank : Origin → Nat
  | .given       => 0
  | .environment => 1
  | .file        => 2

namespace Origin

variable {P : Origin → Prop}

lemma forall_iff : (∀ o, P o) ↔ P .given ∧ P .environment ∧ P .file :=
  ⟨fun h => ⟨h _, h _, h _⟩, fun ⟨hgiven, henv, hfile⟩ o => by cases o <;> assumption⟩

lemma exists_iff : (∃ o, P o) ↔ P .given ∨ P .environment ∨ P .file := by
  constructor
  · rintro ⟨_ | _ | _, h⟩
    exacts [Or.inl h, Or.inr (Or.inl h), Or.inr (Or.inr h)]
  · rintro (h | h | h)
    exacts [⟨_, h⟩, ⟨_, h⟩, ⟨_, h⟩]

end Origin

namespace Setting

/-- The type of the value of a setting. -/
def Value : Setting → Type
  | .kubeconfig | .context | .scope | .fieldManager | .logLevel => Text
  | .readInterval | .checkInterval | .removalInterval => Binary64
  | .initialInterval | .maxInterval | .factor => Binary64
  | .retries => Nat
  | .forceConflicts => Bool

def all : List Setting :=
  [kubeconfig, context, scope, readInterval, checkInterval, removalInterval, retries,
    initialInterval, maxInterval, factor, fieldManager, forceConflicts, logLevel]

lemma mem_all (s : Setting) : s ∈ all := by cases s <;> decide

lemma forall_iff {P : Setting → Prop} : (∀ s, P s) ↔ ∀ s ∈ all, P s :=
  ⟨fun h s _ => h s, fun h s => h s (mem_all s)⟩

/-- What a map holds for a setting: what stands under its name, or else under its key. -/
inductive Entry (s : Setting) (es : List (Text × Document)) : Text → Document → Prop where
  | name {d : Document} (hname : es.lookup s.name = some d) : Entry s es s.name d
  | key {d : Document} (hname : es.lookup s.name = none) (hkey : es.lookup s.key = some d) :
    Entry s es s.key d

end Setting

namespace Sources

variable {src src' : Sources} {s : Setting} {o : Origin} {w : Text} {d : Document}

/-- A source gives a document for a setting, which then goes by a word. Of the variables for a
setting the last one counts. -/
inductive Supplies (src : Sources) (s : Setting) : Origin → Text → Document → Prop where
  | given {w : Text} {d : Document} (h : s.Entry src.given w d) : Supplies src s .given w d
  | environment {before after : List (Text × Text)} {n t : Text}
    (h : src.environment = before ++ (n, t) :: after) (hn : n.map CodePoint.lower = s.key)
    (hafter : ∀ v ∈ after, v.1.map CodePoint.lower ≠ s.key) :
    Supplies src s .environment s.key (.str t)
  | file {w : Text} {d : Document} (h : s.Entry src.file w d) : Supplies src s .file s.key d

/-- No source before this one gives the setting. -/
def IsOpen (src : Sources) (s : Setting) (o : Origin) : Prop :=
  ∀ o' : Origin, o'.rank < o.rank → ∀ w d, ¬ src.Supplies s o' w d

/-- The first source that gives the setting gives this document. -/
def Decides (src : Sources) (s : Setting) (w : Text) (d : Document) : Prop :=
  ∃ o, src.Supplies s o w d ∧ src.IsOpen s o

/-- As far as sources count for a setting, which is up to the first that gives it, they give the
same. -/
def AgreesOn (s : Setting) (src src' : Sources) : Prop :=
  ∀ o, src.IsOpen s o → ∀ w d, src'.Supplies s o w d ↔ src.Supplies s o w d

lemma ofEntries?_eq_some_iff {es : List (Text × Document)} :
    ofEntries? s es = some (w, d) ↔ s.Entry es w d := by
  unfold ofEntries?
  constructor
  · intro h
    split at h
    · next hname =>
      cases h
      exact .name hname
    · next hname =>
      obtain ⟨_, hkey, h⟩ := Option.map_eq_some_iff.mp h
      cases h
      exact .key hname hkey
  · rintro (hname | ⟨hname, hkey⟩)
    · simp [hname]
    · simp [hname, hkey]

lemma supplies_given_iff : src.Supplies s .given w d ↔ ofEntries? s src.given = some (w, d) := by
  rw [ofEntries?_eq_some_iff]
  constructor
  · intro h
    cases h with
    | given h => exact h
  · exact .given

lemma supplies_file_iff :
    src.Supplies s .file w d ↔
      (ofEntries? s src.file).map (fun e => (s.key, e.2)) = some (w, d) := by
  simp only [Option.map_eq_some_iff, Prod.exists, ofEntries?_eq_some_iff]
  constructor
  · intro h
    cases h with
    | file h => exact ⟨_, _, h, rfl⟩
  · rintro ⟨_, _, h, he⟩
    cases he
    exact .file h

lemma supplies_environment_iff :
    src.Supplies s .environment w d ↔ ofEnvironment? s src.environment = some (w, d) := by
  unfold ofEnvironment?
  rw [Option.map_eq_some_iff]
  constructor
  · intro h
    cases h with
    | @environment before after n t henv hn hafter =>
      refine ⟨(n, t), List.find?_eq_some_iff_append.mpr ⟨decide_eq_true hn, ?_⟩, rfl⟩
      refine ⟨after.reverse, before.reverse, by simp [henv], fun v hv => ?_⟩
      simpa using hafter v (List.mem_reverse.mp hv)
  · rintro ⟨⟨n, t⟩, hfind, h⟩
    cases h
    obtain ⟨hn, later, earlier, hrev, hlater⟩ := List.find?_eq_some_iff_append.mp hfind
    have henv : src.environment = earlier.reverse ++ (n, t) :: later.reverse := by
      simpa using congrArg List.reverse hrev
    refine .environment henv (of_decide_eq_true hn) fun v hv => ?_
    simpa using hlater v (List.mem_reverse.mp hv)

/-- What a source gives for a setting. -/
def supply? (src : Sources) (s : Setting) : Origin → Option (Text × Document)
  | .given       => ofEntries? s src.given
  | .environment => ofEnvironment? s src.environment
  | .file        => (ofEntries? s src.file).map fun e => (s.key, e.2)

lemma supplies_iff : src.Supplies s o w d ↔ src.supply? s o = some (w, d) := by
  cases o with
  | given => exact supplies_given_iff
  | environment => exact supplies_environment_iff
  | file => exact supplies_file_iff

lemma find?_eq_supply? (src : Sources) (s : Setting) :
    src.find? s = (src.supply? s .given).orElse fun _ =>
      (src.supply? s .environment).orElse fun _ => src.supply? s .file := rfl

lemma isOpen_iff : src.IsOpen s o ↔ ∀ o' : Origin, o'.rank < o.rank → src.supply? s o' = none := by
  simp only [IsOpen, supplies_iff, Option.eq_none_iff_forall_ne_some, Prod.forall, ne_eq]

lemma find?_eq_some_iff : src.find? s = some (w, d) ↔ src.Decides s w d := by
  simp only [Decides, isOpen_iff, supplies_iff, Origin.exists_iff, Origin.forall_iff, Origin.rank,
    find?_eq_supply?]
  cases src.supply? s .given <;> cases src.supply? s .environment <;> simp

lemma find?_eq_none_iff : src.find? s = none ↔ ∀ w d, ¬ src.Decides s w d := by
  simp only [← find?_eq_some_iff, Option.eq_none_iff_forall_ne_some, Prod.forall, ne_eq]

lemma agreesOn_iff :
    src.AgreesOn s src' ↔ ∀ o, src.IsOpen s o → src'.supply? s o = src.supply? s o := by
  refine forall₂_congr fun o _ => ?_
  simp only [supplies_iff]
  exact ⟨fun h => Option.ext fun ⟨w, d⟩ => h w d, fun h w d => by rw [h]⟩

/-- Sources that agree as far as they count for a setting decide it in the same way. -/
lemma find?_eq_of_agreesOn (h : src.AgreesOn s src') : src'.find? s = src.find? s := by
  simp only [agreesOn_iff, isOpen_iff, Origin.forall_iff, Origin.rank] at h
  obtain ⟨hgiven, henv, hfile⟩ := h
  simp only [find?_eq_supply?]
  cases hg : src.supply? s .given with
  | some e => simp [hgiven, hg]
  | none =>
    cases he : src.supply? s .environment with
    | some e => simp [hgiven, henv, hg, he]
    | none => simp [hgiven, henv, hfile, hg, he]

end Sources

namespace Checked

variable {α β : Type} {x : Checked α} {y : Checked β}

/-- The issues that a check is rejected with. -/
def issues : Checked α → List Issue
  | .error (.issues is) => is
  | _ => []

/-- What stops a check. -/
def failure? : Checked α → Option Failure
  | .error (.failed f) => some f
  | _ => none

/-- A check that is rejected has an issue. -/
def HasIssue (x : Checked α) : Prop := x ≠ .error (.issues [])

lemma failure?_eq_some_iff {f : Failure} : x.failure? = some f ↔ x = .error (.failed f) := by
  rcases x with (_ | _) | _ <;> simp [failure?]

lemma HasIssue.eq_issues_iff (h : x.HasIssue) {is : List Issue} :
    x = .error (.issues is) ↔ x.failure? = none ∧ is ≠ [] ∧ is = x.issues := by
  rcases x with (js | _) | _
  · simp only [Except.error.injEq, Rejection.issues.injEq, failure?, issues, true_and]
    refine ⟨?_, fun ⟨_, he⟩ => he.symm⟩
    rintro rfl
    exact ⟨fun he => h (by rw [he]), rfl⟩
  · simp [failure?]
  · simp only [failure?, issues, reduceCtorEq, true_and, false_iff]
    exact fun ⟨hne, he⟩ => hne he

lemma Ends.hasIssue {p : Prop} (h : Ends p x) : x.HasIssue := by
  cases h with
  | rejected _ his =>
    intro he
    cases he
    exact his rfl
  | _ => rintro ⟨⟩

lemma Ends.failure?_eq_none (h : Ends False x) : x.failure? = none := by
  cases h with
  | stopped h => exact h.elim
  | _ => rfl

lemma HasIssue.inside (h : x.HasIssue) (p : Place) : (x.inside p).HasIssue := by
  rcases x with (_ | _) | _
  · simpa [HasIssue, Checked.inside] using h
  · rintro ⟨⟩
  · rintro ⟨⟩

lemma HasIssue.both (hx : x.HasIssue) (hy : y.HasIssue) : (Checked.both x y).HasIssue := by
  rcases x with (is | _) | _
  · have his : is ≠ [] := by
      rintro rfl
      exact hx rfl
    rcases y with (_ | _) | _ <;> simp [HasIssue, Checked.both, his]
  · rintro ⟨⟩
  · rcases y with (_ | _) | _
    · simpa [HasIssue, Checked.both] using hy
    · rintro ⟨⟩
    · rintro ⟨⟩

@[simp] lemma failure?_inside (p : Place) : (x.inside p).failure? = x.failure? := by
  rcases x with (_ | _) | _ <;> rfl

@[simp] lemma failure?_map (f : α → β) : failure? (x.map f) = x.failure? := by
  rcases x with (_ | _) | _ <;> rfl

@[simp] lemma failure?_both :
    (both x y).failure? = x.failure?.orElse fun _ => y.failure? := by
  rcases x with (_ | _) | _ <;> rcases y with (_ | _) | _ <;> rfl

/-- Unless it stops, a check of two parts finds the issues of the first and then of the second. -/
lemma issues_both (h : (both x y).failure? = none) : (both x y).issues = x.issues ++ y.issues := by
  rcases x with (_ | _) | _ <;> rcases y with (_ | _) | _ <;> simp_all [both, issues, failure?]

end Checked

open Checked (Ends)

/-! ### Reading -/

namespace Read

lemma number_ends (d : Document) : Ends False (number d) := by
  unfold number
  split
  · exact .ok _
  · exact .ok _
  · split
    · exact .ok _
    · exact .problem _
  · refine (written?_ends _ _).bind_left fun t? => ?_
    split
    · exact .problem _
    · split
      · exact .ok _
      · exact .problem _

lemma integerText_ends (t : Text) : Ends False (integerText t) := by
  unfold integerText
  dsimp only
  split
  · exact .problem _
  · split_ifs
    exacts [.problem _, .problem _, .ok _, .ok _]

lemma integer_ends (d : Document) : Ends False (integer d) := by
  unfold integer
  split
  · exact .ok _
  · exact .ok _
  · split_ifs
    exacts [.problem _, .problem _, .ok _, .problem _]
  · refine (written?_ends _ _).bind_left fun t? => ?_
    split
    · exact .problem _
    · exact integerText_ends _

lemma above_ends (bound : Nat) (x : Binary64) : Ends False (above bound x) := by
  unfold above
  split
  · exact .ok x
  · exact .problem _

lemma atLeast_ends (bound : Nat) (x : Binary64) : Ends False (atLeast bound x) := by
  unfold atLeast
  split
  · exact .ok x
  · exact .problem _

end Read

/-! ### Settings -/

namespace Settings

variable {homes : Text → Option Text} {src src' : Sources} {r : Settings} {s : Setting}

/-- The value of one setting. -/
def get (r : Settings) : (s : Setting) → s.Value
  | .kubeconfig      => r.kubeconfig
  | .context         => r.context
  | .scope           => r.scope
  | .readInterval    => r.readInterval
  | .checkInterval   => r.checkInterval
  | .removalInterval => r.removalInterval
  | .retries         => r.retries
  | .initialInterval => r.initialInterval
  | .maxInterval     => r.maxInterval
  | .factor          => r.factor
  | .fieldManager    => r.fieldManager
  | .forceConflicts  => r.forceConflicts
  | .logLevel        => r.logLevel

/-- The settings of the values given. -/
def ofValues (a : (s : Setting) → s.Value) : Settings :=
  ⟨a .kubeconfig, a .context, a .scope, a .readInterval, a .checkInterval, a .removalInterval,
    a .retries, a .initialInterval, a .maxInterval, a .factor, a .fieldManager, a .forceConflicts,
    a .logLevel⟩

lemma get_ofValues (a : (s : Setting) → s.Value) (s : Setting) : (ofValues a).get s = a s := by
  cases s <;> rfl

/-- The check of what is given for a setting. -/
def check (homes : Text → Option Text) : (s : Setting) → Document → Checked s.Value
  | .kubeconfig => location homes
  | .context | .scope | .fieldManager => Read.text
  | .readInterval | .checkInterval | .removalInterval => span
  | .initialInterval | .maxInterval => span
  | .factor => growth
  | .retries => natural
  | .forceConflicts => Read.boolean
  | .logLevel => fun d => (Read.text d).map Text.upper

/-- One setting on its own. -/
def part (homes : Text → Option Text) (src : Sources) (s : Setting) : Checked s.Value :=
  read src s (default.get s) (check homes s)

/-- The values of all settings in the groups that they are checked in. -/
abbrev Groups : Type :=
  (Setting.kubeconfig.Value × Setting.context.Value × Setting.scope.Value) ×
    (Setting.readInterval.Value × Setting.checkInterval.Value × Setting.removalInterval.Value) ×
    (Setting.retries.Value × Setting.initialInterval.Value × Setting.maxInterval.Value ×
      Setting.factor.Value) ×
    Setting.fieldManager.Value × Setting.forceConflicts.Value × Setting.logLevel.Value

def ofGroups : Groups → Settings
  | ((kubeconfig, context, ns), (reads, checks, removals), (retries, initial, limit, factor),
      manager, force, level) =>
    ⟨kubeconfig, context, ns, reads, checks, removals, retries, initial, limit, factor, manager,
      force, level⟩

def toGroups (r : Settings) : Groups :=
  ((r.kubeconfig, r.context, r.scope), (r.readInterval, r.checkInterval, r.removalInterval),
    (r.retries, r.initialInterval, r.maxInterval, r.factor), r.fieldManager, r.forceConflicts,
    r.logLevel)

/-- All settings in their groups. -/
def groups (homes : Text → Option Text) (src : Sources) : Checked Groups :=
  let part := part homes src
  Checked.both
    (Checked.both (part .kubeconfig) (Checked.both (part .context) (part .scope)))
    (Checked.both
      (Checked.both (part .readInterval)
        (Checked.both (part .checkInterval) (part .removalInterval)))
      (Checked.both
        (Checked.both (part .retries) (Checked.both (part .initialInterval)
          (Checked.both (part .maxInterval) (part .factor))))
        (Checked.both (part .fieldManager)
          (Checked.both (part .forceConflicts) (part .logLevel)))))

lemma ofSources_eq_map (homes : Text → Option Text) (src : Sources) :
    ofSources homes src = (groups homes src).map ofGroups := by
  unfold ofSources
  change groups homes src >>= _ = _
  cases groups homes src <;> rfl

lemma groups_eq_ok_iff {a : Groups} :
    groups homes src = .ok a ↔ ∀ s ∈ Setting.all, part homes src s = .ok ((ofGroups a).get s) := by
  simp [groups, Checked.both_eq_ok_iff, Setting.all, ofGroups, get, and_assoc]

/-! #### One setting -/

lemma span_ends (d : Document) : Ends False (span d) :=
  (Read.number_ends d).bind_left (Read.above_ends 0)

lemma growth_ends (d : Document) : Ends False (growth d) :=
  (Read.number_ends d).bind_left (Read.atLeast_ends 1)

lemma natural_ends (d : Document) : Ends False (natural d) := by
  refine (Read.integer_ends d).bind_left fun n => ?_
  cases n with
  | ofNat n => exact .ok n
  | negSucc n => exact .problem _

/-- No setting but the kubeconfig stops the check. -/
lemma check_ends (hs : s ≠ .kubeconfig) (d : Document) : Ends False (check homes s d) := by
  cases s with
  | kubeconfig => exact absurd rfl hs
  | context | scope | fieldManager => exact Read.text_ends d
  | readInterval | checkInterval | removalInterval | initialInterval | maxInterval =>
    exact span_ends d
  | retries => exact natural_ends d
  | factor => exact growth_ends d
  | forceConflicts => exact Read.boolean_ends d
  | logLevel => exact (Read.text_ends d).map _

lemma location_hasIssue (d : Document) : (location homes d).HasIssue := by
  unfold location
  split
  · exact (Read.text_ends d).hasIssue
  · split
    · split
      · exact (Read.text_ends _).hasIssue
      · simp [Checked.HasIssue]
    · simp [Checked.HasIssue]

lemma check_hasIssue (s : Setting) (d : Document) : (check homes s d).HasIssue := by
  by_cases hs : s = .kubeconfig
  · subst hs
    exact location_hasIssue d
  · exact (check_ends hs d).hasIssue

lemma part_hasIssue (homes : Text → Option Text) (src : Sources) (s : Setting) :
    (part homes src s).HasIssue := by
  unfold part read
  split
  · simp [Checked.HasIssue]
  · exact (check_hasIssue s _).inside _

lemma failure?_part (hs : s ≠ .kubeconfig) : (part homes src s).failure? = none := by
  unfold part read
  split
  · rfl
  · rw [Checked.failure?_inside]
    exact (check_ends hs _).failure?_eq_none

/-! #### All settings -/

lemma ofSources_eq_ok_iff :
    ofSources homes src = .ok r ↔ ∀ s, part homes src s = .ok (r.get s) := by
  rw [ofSources_eq_map, map_eq_ok_iff, Setting.forall_iff]
  constructor
  · rintro ⟨a, ha, rfl⟩
    exact groups_eq_ok_iff.mp ha
  · intro h
    exact ⟨r.toGroups, groups_eq_ok_iff.mpr h, rfl⟩

lemma groups_hasIssue (homes : Text → Option Text) (src : Sources) :
    (groups homes src).HasIssue := by
  have h := part_hasIssue homes src
  exact ((h _).both ((h _).both (h _))).both (((h _).both ((h _).both (h _))).both
    (((h _).both ((h _).both ((h _).both (h _)))).both ((h _).both ((h _).both (h _)))))

/-- Only the kubeconfig stops the check of all settings. -/
lemma failure?_groups :
    (groups homes src).failure? = (part homes src .kubeconfig).failure? := by
  simp [groups, failure?_part]

lemma issues_groups (h : (groups homes src).failure? = none) :
    (groups homes src).issues = Setting.all.flatMap fun s => (part homes src s).issues := by
  rw [failure?_groups] at h
  simp (disch := simp [failure?_part, h]) [groups, Checked.issues_both, Setting.all]

/-- What is given for the kubeconfig stops the check with a failure. -/
inductive Stops (homes : Text → Option Text) : Document → Failure → Prop where
  | notText {d : Document} (hblank : d.isBlank = false) (hd : ∀ t, d ≠ .str t) :
    Stops homes d .wrongType
  | homeless {t : Text} (ht : t ≠ []) (hhome : (Location.ofText t).expand? homes = none) :
    Stops homes (.str t) (.external "RuntimeError" "Could not determine home directory.")

/-- A value that a setting has on account of the sources: what the first source that gives it
gives, if that passes the check, or the default if there is none. -/
inductive Holds (homes : Text → Option Text) (src : Sources) (s : Setting) : s.Value → Prop where
  | decided {w : Text} {d : Document} {a : s.Value} (hd : src.Decides s w d)
    (ha : check homes s d = .ok a) : Holds homes src s a
  | left (hnone : ∀ w d, ¬ src.Decides s w d) : Holds homes src s (default.get s)

lemma part_of_decides {w : Text} {d : Document} (h : src.Decides s w d) :
    part homes src s = (check homes s d).inside (.field w) := by
  rw [part, read, Sources.find?_eq_some_iff.mpr h]

lemma part_of_not_decides (h : ∀ w d, ¬ src.Decides s w d) :
    part homes src s = .ok (default.get s) := by
  rw [part, read, Sources.find?_eq_none_iff.mpr h]

lemma part_of_agreesOn (h : src.AgreesOn s src') : part homes src' s = part homes src s := by
  rw [part, part, read, read, Sources.find?_eq_of_agreesOn h]

lemma part_eq_ok_iff {a : s.Value} : part homes src s = .ok a ↔ Holds homes src s a := by
  constructor
  · intro h
    by_cases hd : ∃ w d, src.Decides s w d
    · obtain ⟨w, d, hd⟩ := hd
      rw [part_of_decides hd, Checked.inside_eq_ok_iff] at h
      exact .decided hd h
    · have hnone : ∀ w d, ¬ src.Decides s w d := fun w d h => hd ⟨w, d, h⟩
      rw [part_of_not_decides hnone] at h
      cases h
      exact .left hnone
  · intro h
    cases h with
    | decided hd ha => rw [part_of_decides hd, Checked.inside_eq_ok_iff, ha]
    | left hnone => exact part_of_not_decides hnone

lemma failure?_location {d : Document} {f : Failure} :
    (location homes d).failure? = some f ↔ Stops homes d f := by
  constructor
  · intro h
    unfold location at h
    split at h
    · rw [(Read.text_ends d).failure?_eq_none] at h
      cases h
    · next hblank =>
      split at h
      · next t =>
        split at h
        · rw [(Read.text_ends _).failure?_eq_none] at h
          cases h
        · next hhome =>
          cases h
          exact .homeless (by rintro rfl; exact hblank rfl) hhome
      · next hd =>
        cases h
        exact .notText (by simpa using hblank) hd
  · intro h
    cases h with
    | notText hblank hd =>
      unfold location
      rw [if_neg (by simp [hblank])]
      cases d with
      | str t => exact absurd rfl (hd t)
      | _ => rfl
    | @homeless t ht hhome =>
      have hblank : (Document.str t).isBlank = false := by simpa [Document.isBlank] using ht
      simp [location, hblank, hhome, Checked.failure?]

lemma failure?_part_kubeconfig {f : Failure} :
    (part homes src .kubeconfig).failure? = some f ↔
      ∃ w d, src.Decides .kubeconfig w d ∧ Stops homes d f := by
  constructor
  · intro h
    by_cases hd : ∃ w d, src.Decides .kubeconfig w d
    · obtain ⟨w, d, hd⟩ := hd
      rw [part_of_decides hd, Checked.failure?_inside] at h
      exact ⟨w, d, hd, failure?_location.mp h⟩
    · rw [part_of_not_decides fun w d h => hd ⟨w, d, h⟩] at h
      cases h
  · rintro ⟨w, d, hd, hstops⟩
    rw [part_of_decides hd, Checked.failure?_inside]
    exact failure?_location.mpr hstops

lemma failure?_ofSources :
    (ofSources homes src).failure? = (part homes src .kubeconfig).failure? := by
  rw [ofSources_eq_map, Checked.failure?_map, failure?_groups]

lemma ofSources_eq_failed_iff {f : Failure} :
    ofSources homes src = .error (.failed f) ↔
      ∃ w d, src.Decides .kubeconfig w d ∧ Stops homes d f := by
  rw [← Checked.failure?_eq_some_iff, failure?_ofSources, failure?_part_kubeconfig]

lemma ofSources_eq_issues_iff {is : List Issue} :
    ofSources homes src = .error (.issues is) ↔
      (∀ w d f, src.Decides .kubeconfig w d → ¬ Stops homes d f) ∧ is ≠ [] ∧
        is = Setting.all.flatMap fun s => (part homes src s).issues := by
  have hnone : (groups homes src).failure? = none ↔
      ∀ w d f, src.Decides .kubeconfig w d → ¬ Stops homes d f := by
    rw [failure?_groups, Option.eq_none_iff_forall_ne_some]
    simp only [ne_eq, failure?_part_kubeconfig, not_exists, not_and]
    exact ⟨fun h w d f => h f w d, fun h f w d => h w d f⟩
  rw [ofSources_eq_map, map_eq_error_iff, (groups_hasIssue homes src).eq_issues_iff, ← hnone]
  refine and_congr_right fun h => ?_
  rw [issues_groups h]

lemma exists_ofSources_eq_ok_iff :
    (∃ r, ofSources homes src = .ok r) ↔ ∀ s, ∃ a, Holds homes src s a := by
  simp only [ofSources_eq_ok_iff, part_eq_ok_iff]
  constructor
  · rintro ⟨r, h⟩ s
    exact ⟨r.get s, h s⟩
  · intro h
    choose a ha using h
    exact ⟨ofValues a, fun s => (get_ofValues a s).symm ▸ ha s⟩

/-- A number stands for the kubeconfig in the file. -/
def numberedSources : Sources := ⟨[], [], [("k8s_kubeconfig", .int 5)]⟩

lemma numberedSources_decide :
    numberedSources.Decides .kubeconfig Setting.kubeconfig.key (.int 5) := by
  rw [← Sources.find?_eq_some_iff]
  rfl

/-- A namespace is given. -/
def plainSources : Sources := ⟨[("K8S_NAMESPACE", .str "apps")], [], []⟩

/-- The namespace is given by a variable and in the file as well, where it is no text. -/
def overruledSources : Sources :=
  { plainSources with
    environment := [("K8s_Namespace", "staging")]
    file        := [("k8s_namespace", .int 5)] }

end Settings

end Settle

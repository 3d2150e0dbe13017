import Settle.Proofs.Except
import Settle.Proofs.Rule.Total

/-!
# The first rule that matches

A rule for a field matches a snapshot if the pattern is found in the shortest text of a scalar at
the path, a rule for a condition if some entry of the conditions has the type and status sought.
Of a list of rules the first one that matches aborts the wait, and it reports what it has matched;
so rules that are added can only come before it or change nothing.
-/

namespace Settle

/-- Nothing in a list has a property, or something is the first that has it. -/
lemma none_or_exists_first {α : Type} (P : α → Prop) (as : List α) :
    (∀ a ∈ as, ¬ P a) ∨
      ∃ before a behind, as = before ++ a :: behind ∧ (∀ b ∈ before, ¬ P b) ∧ P a := by
  classical
  cases hfind : as.find? fun a => decide (P a) with
  | none => exact Or.inl (by simpa using hfind)
  | some a =>
    obtain ⟨ha, before, behind, rfl, hbefore⟩ := List.find?_eq_some_iff_append.mp hfind
    exact Or.inr ⟨before, a, behind, rfl, by simpa using hbefore, by simpa using ha⟩

namespace Rule

/-! ### What rules match -/

/-- An item of the conditions is a map, and its type and status are shown as the texts sought; an
empty text stands for any. -/
inductive Fits (type status : Text) : Value → Prop where
  | entry {entry : List (Text × Value)} {foundType foundStatus : Text}
      (typeShown : shownOr [] (Value.lookup "type" entry) = .ok foundType)
      (statusShown : shownOr [] (Value.lookup "status" entry) = .ok foundStatus)
      (sameType : type = [] ∨ foundType = type) (sameStatus : status = [] ∨ foundStatus = status) :
      Fits type status (.map entry)

/-- A snapshot is in the state that a rule describes. -/
def Matches (object : Value) : Rule → Prop
  | .field _ path _ pattern _ =>
    ∃ v t, path.walk object = some v ∧ v.IsScalar ∧ v.scalarText .shortest = .ok t ∧
      pattern.foundIn t = true
  | .condition type status _ =>
    ∃ items, conditionsPath.walk object = some (.list items) ∧ ∃ v ∈ items, Fits type status v

/-- What is said of a condition if the rule has no message. -/
def usualText (resource type status reason message : Text) : Text :=
  "error condition met for " ++ resource ++ ": condition type=" ++ type ++ " status=" ++ status ++
    " reason=" ++ reason ++ " message=" ++ message

/-- The message of a rule, or the usual text if it is missing or empty. -/
def messageOr (usual : Text) : Option Text → Text
  | some (c :: t) => c :: t
  | _             => usual

/-- A rule reports the scalar it has matched, or the first entry that fits with its reason and
message. -/
inductive Reports (resource : Text) (object : Value) : Rule → Abort → Prop where
  | field {key value t : Text} {path : Path} {pattern : Pattern} {message? : Option Text}
      {v : Value} (walk : path.walk object = some v) (scalar : v.IsScalar)
      (text : v.scalarText .shortest = .ok t) (found : pattern.foundIn t = true) :
      Reports resource object (.field key path value pattern message?)
        ⟨resource, key, t, value, message?⟩
  | condition {type status foundType foundStatus reason message : Text} {message? : Option Text}
      {before behind : List Value} {entry : List (Text × Value)}
      (walk : conditionsPath.walk object = some (.list (before ++ .map entry :: behind)))
      (first : ∀ v ∈ before, ¬ Fits type status v) (fits : Fits type status (.map entry))
      (typeShown : shownOr [] (Value.lookup "type" entry) = .ok foundType)
      (statusShown : shownOr [] (Value.lookup "status" entry) = .ok foundStatus)
      (reasonShown : shownOr [] (Value.lookup "reason" entry) = .ok reason)
      (messageShown : shownOr [] (Value.lookup "message" entry) = .ok message) :
      Reports resource object (.condition type status message?)
        ⟨resource, "status.conditions[type=" ++ foundType ++ "]", foundStatus,
          "type=" ++ orAny type ++ " status=" ++ orAny status,
          some (messageOr (usualText resource foundType foundStatus reason message) message?)⟩

/-! ### One condition -/

section Entry

variable {type status : Text} {entry : List (Text × Value)} {foundType foundStatus : Text}
  (htype : shownOr [] (Value.lookup "type" entry) = .ok foundType)
  (hstatus : shownOr [] (Value.lookup "status" entry) = .ok foundStatus)
include htype hstatus

lemma fits_map_iff :
    Fits type status (.map entry) ↔
      (type = [] ∨ foundType = type) ∧ (status = [] ∨ foundStatus = status) := by
  constructor
  · rintro ⟨htype', hstatus', sameType, sameStatus⟩
    obtain rfl := Except.ok.inj (htype'.symm.trans htype)
    obtain rfl := Except.ok.inj (hstatus'.symm.trans hstatus)
    exact ⟨sameType, sameStatus⟩
  · rintro ⟨sameType, sameStatus⟩
    exact .entry htype hstatus sameType sameStatus

/-- The test of an entry is whether it fits. -/
lemma sought_iff :
    ((type.isEmpty || decide (foundType = type)) &&
      (status.isEmpty || decide (foundStatus = status))) = true ↔
      Fits type status (.map entry) := by
  simp [fits_map_iff htype hstatus]

lemma findEntry_map (resource : Text) (message? : Option Text) (rest : List Value) :
    findEntry resource type status message? (.map entry :: rest)
      = if (type.isEmpty || decide (foundType = type)) &&
            (status.isEmpty || decide (foundStatus = status)) then
          (ofEntry resource type status message? entry foundType foundStatus).map some
        else findEntry resource type status message? rest := by
  rw [findEntry, htype, hstatus]
  rfl

end Entry

/-- What is reported of an entry, its texts being known. -/
lemma ofEntry_eq {entry : List (Text × Value)} {reason message : Text}
    (hreason : shownOr [] (Value.lookup "reason" entry) = .ok reason)
    (hmessage : shownOr [] (Value.lookup "message" entry) = .ok message)
    (resource type status : Text) (message? : Option Text) (foundType foundStatus : Text) :
    ofEntry resource type status message? entry foundType foundStatus
      = .ok ⟨resource, "status.conditions[type=" ++ foundType ++ "]", foundStatus,
          "type=" ++ orAny type ++ " status=" ++ orAny status,
          some (messageOr (usualText resource foundType foundStatus reason message) message?)⟩ := by
  simp only [ofEntry, hreason, hmessage]
  rcases message? with _ | _ | ⟨c, t⟩ <;> rfl

/-- An item that does not fit is passed over. -/
lemma findEntry_of_not_fits {type status : Text} {v : Value} (hv : v.Writable)
    (h : ¬ Fits type status v) (resource : Text) (message? : Option Text) (rest : List Value) :
    findEntry resource type status message? (v :: rest)
      = findEntry resource type status message? rest := by
  cases v with
  | map entry =>
    obtain ⟨foundType, htype⟩ := exists_shownOr_lookup hv [] "type"
    obtain ⟨foundStatus, hstatus⟩ := exists_shownOr_lookup hv [] "status"
    rw [findEntry_map htype hstatus, if_neg (mt (sought_iff htype hstatus).mp h)]
  | _ => rfl

lemma findEntry_append_of_not_fits {type status : Text} {before : List Value}
    (hbefore : ∀ v ∈ before, v.Writable) (h : ∀ v ∈ before, ¬ Fits type status v)
    (resource : Text) (message? : Option Text) (rest : List Value) :
    findEntry resource type status message? (before ++ rest)
      = findEntry resource type status message? rest := by
  induction before with
  | nil => rfl
  | cons v before ih =>
    rw [List.forall_mem_cons] at hbefore h
    rw [List.cons_append, findEntry_of_not_fits hbefore.1 h.1, ih hbefore.2 h.2]

/-! ### One rule -/

/-- A rule that reports something matches. -/
lemma Reports.matches {resource : Text} {object : Value} {r : Rule} {a : Abort}
    (h : r.Reports resource object a) : r.Matches object := by
  cases h with
  | field walk scalar text found => exact ⟨_, _, walk, scalar, text, found⟩
  | condition walk _ fits => exact ⟨_, walk, _, by simp, fits⟩

section Snapshot

variable {object : Value} (h : object.Writable)
include h

lemma writable_of_conditions {items : List Value}
    (hwalk : conditionsPath.walk object = some (.list items)) : ∀ v ∈ items, v.Writable :=
  Value.writable_list_iff.mp (h.walk hwalk)

/-- A rule that matches reports something. -/
lemma Matches.exists_reports {r : Rule} (hr : r.Matches object) (resource : Text) :
    ∃ a, r.Reports resource object a := by
  cases r with
  | field key path value pattern message? =>
    obtain ⟨v, t, walk, scalar, text, found⟩ := hr
    exact ⟨_, .field walk scalar text found⟩
  | condition type status message? =>
    obtain ⟨items, hwalk, v, hv, hfits⟩ := hr
    obtain hnone | ⟨before, first, behind, rfl, hbefore, hfirst⟩ :=
      none_or_exists_first (Fits type status) items
    · exact absurd hfits (hnone v hv)
    · obtain ⟨entry, rfl⟩ : ∃ entry, first = .map entry := by
        cases hfirst
        exact ⟨_, rfl⟩
      have hwritable : (Value.map entry).Writable :=
        writable_of_conditions h hwalk _ (by simp)
      obtain ⟨foundType, htype⟩ := exists_shownOr_lookup hwritable [] "type"
      obtain ⟨foundStatus, hstatus⟩ := exists_shownOr_lookup hwritable [] "status"
      obtain ⟨reason, hreason⟩ := exists_shownOr_lookup hwritable [] "reason"
      obtain ⟨message, hmessage⟩ := exists_shownOr_lookup hwritable [] "message"
      exact ⟨_, .condition hwalk hbefore hfirst htype hstatus hreason hmessage⟩

lemma check_of_reports {resource : Text} {r : Rule} {a : Abort}
    (hr : r.Reports resource object a) : r.check resource object = .ok (some a) := by
  cases hr with
  | @field _ _ _ _ _ _ v walk scalar text found =>
    cases v with
    | null => exact scalar.elim
    | _ => simp only [check, walk, text, found, if_true]
  | condition walk first fits typeShown statusShown reasonShown messageShown =>
    have hitems := writable_of_conditions h walk
    have hbefore := fun v hv => hitems v (List.mem_append_left _ hv)
    simp only [check, walk, findEntry_append_of_not_fits hbefore first,
      findEntry_map typeShown statusShown, if_pos ((sought_iff typeShown statusShown).mpr fits),
      ofEntry_eq reasonShown messageShown]
    rfl

lemma check_of_not_matches {r : Rule} (hr : ¬ r.Matches object) (resource : Text) :
    r.check resource object = .ok none := by
  cases r with
  | field key path value pattern message? =>
    obtain ⟨found, hfound⟩ := exists_check h resource (.field key path value pattern message?)
    rw [check] at hfound ⊢
    split at hfound
    · rfl
    · rfl
    · next v _ hwalk =>
      split at hfound
      · rfl
      · cases hfound
      · next t htext =>
        refine if_neg fun hpattern => hr ⟨v, t, hwalk, ?_, htext, hpattern⟩
        exact Value.isScalar_of_scalarText htext
  | condition type status message? =>
    rw [check]
    split
    · next items hwalk =>
      have hnone : ∀ v ∈ items, ¬ Fits type status v := fun v hv hfits =>
        hr ⟨items, hwalk, v, hv, hfits⟩
      have hpassed := findEntry_append_of_not_fits (writable_of_conditions h hwalk) hnone resource
        message? []
      rwa [List.append_nil] at hpassed
    · rfl

/-! ### Lists of rules -/

lemma firstMatch_append_of_not_matches {before : List Rule}
    (hbefore : ∀ q ∈ before, ¬ q.Matches object) (resource : Text) (rules : List Rule) :
    firstMatch resource object (before ++ rules) = firstMatch resource object rules := by
  induction before with
  | nil => rfl
  | cons q before ih =>
    rw [List.forall_mem_cons] at hbefore
    rw [List.cons_append, firstMatch, check_of_not_matches h hbefore.1, ok_bind]
    exact ih hbefore.2

lemma firstMatch_cons_of_reports {resource : Text} {r : Rule} {a : Abort}
    (hr : r.Reports resource object a) (rules : List Rule) :
    firstMatch resource object (r :: rules) = .ok (some a) := by
  rw [firstMatch, check_of_reports h hr, ok_bind]
  rfl

/-- The first rule that matches decides what is found; without one nothing is. -/
lemma firstMatch_cases (resource : Text) (rules : List Rule) :
    (∀ r ∈ rules, ¬ r.Matches object) ∧ firstMatch resource object rules = .ok none ∨
      ∃ before r behind a, rules = before ++ r :: behind ∧ (∀ q ∈ before, ¬ q.Matches object) ∧
        r.Reports resource object a ∧ firstMatch resource object rules = .ok (some a) := by
  obtain hnone | ⟨before, r, behind, rfl, hbefore, hr⟩ :=
    none_or_exists_first (Matches object) rules
  · have hpassed := firstMatch_append_of_not_matches h hnone resource []
    rw [List.append_nil] at hpassed
    exact Or.inl ⟨hnone, hpassed⟩
  · obtain ⟨a, ha⟩ := hr.exists_reports h resource
    refine Or.inr ⟨before, r, behind, a, rfl, hbefore, ha, ?_⟩
    rw [firstMatch_append_of_not_matches h hbefore, firstMatch_cons_of_reports h ha]

lemma firstMatch_eq_ok_none_iff {resource : Text} {rules : List Rule} :
    firstMatch resource object rules = .ok none ↔ ∀ r ∈ rules, ¬ r.Matches object := by
  obtain ⟨hnone, hfound⟩ | ⟨before, r, behind, a, rfl, -, ha, hfound⟩ :=
    firstMatch_cases h resource rules
  · exact iff_of_true hfound hnone
  · refine iff_of_false (by simp [hfound]) fun hnone => hnone r (by simp) ha.matches

lemma firstMatch_eq_ok_some_iff {resource : Text} {rules : List Rule} {a : Abort} :
    firstMatch resource object rules = .ok (some a) ↔
      ∃ before r behind, rules = before ++ r :: behind ∧ (∀ q ∈ before, ¬ q.Matches object) ∧
        r.Matches object ∧ r.Reports resource object a := by
  constructor
  · intro hfound
    obtain ⟨-, hnone⟩ | ⟨before, r, behind, a', rfl, hbefore, ha, hfound'⟩ :=
      firstMatch_cases h resource rules
    · cases hnone.symm.trans hfound
    · cases hfound'.symm.trans hfound
      exact ⟨before, r, behind, rfl, hbefore, ha.matches, ha⟩
  · rintro ⟨before, r, behind, rfl, hbefore, -, ha⟩
    rw [firstMatch_append_of_not_matches h hbefore, firstMatch_cons_of_reports h ha]

end Snapshot

/-- Checking rules on a snapshot that can be written does not fail. It finds nothing exactly if no
rule matches, and otherwise what the first rule that matches reports. So rules that are appended
count only if none before them matches, and wherever rules are inserted, a snapshot on which a wait
is aborted still aborts it. -/
theorem first_rule_that_matches_aborts {object : Value} (h : object.Writable) (resource : Text)
    (rules : List Rule) :
    let found := firstMatch resource object
    (∃ a?, found rules = .ok a?) ∧
    (found rules = .ok none ↔ ∀ r ∈ rules, ¬ r.Matches object) ∧
    (∀ a, found rules = .ok (some a) ↔
      ∃ before r behind, rules = before ++ r :: behind ∧ (∀ q ∈ before, ¬ q.Matches object) ∧
        r.Matches object ∧ r.Reports resource object a) ∧
    (∀ others, found rules = .ok none → found (rules ++ others) = found others) ∧
    (∀ others a, found rules = .ok (some a) → found (rules ++ others) = .ok (some a)) ∧
    ∀ more, rules.Sublist more → (∃ a, found rules = .ok (some a)) →
      ∃ a, found more = .ok (some a) := by
  intro found
  refine ⟨exists_firstMatch h resource rules, firstMatch_eq_ok_none_iff h,
    fun a => firstMatch_eq_ok_some_iff h, ?_, ?_, ?_⟩
  · intro others hnone
    have hrules := (firstMatch_eq_ok_none_iff h).mp hnone
    exact firstMatch_append_of_not_matches h hrules resource others
  · intro others a ha
    obtain ⟨before, r, behind, rfl, hr⟩ := (firstMatch_eq_ok_some_iff h).mp ha
    refine (firstMatch_eq_ok_some_iff h).mpr ⟨before, r, behind ++ others, ?_, hr⟩
    rw [List.append_assoc, List.cons_append]
  · rintro more hmore ⟨a, ha⟩
    obtain ⟨before, r, behind, rfl, -, hr, -⟩ := (firstMatch_eq_ok_some_iff h).mp ha
    obtain ⟨hnone, -⟩ | ⟨-, -, -, a', -, -, -, hfound⟩ := firstMatch_cases h resource more
    · exact absurd hr (hnone r (hmore.subset (by simp)))
    · exact ⟨a', hfound⟩

/-- A condition that has no type and whose status is no text. -/
def falseEntry : List (Text × Value) := [("status", .bool false), ("reason", .null)]

/-- An object with a condition that is no map, one that is true, and the one above. -/
def stalledObject : Value :=
  .map [("status", .map [("conditions", .list [.null,
    .map [("type", .str "Ready"), ("status", .str "True")], .map falseEntry])])]

/-- The first rule is about a value that is no scalar, the second about any condition of a status
that only the last condition has. -/
def stalledRules : List Rule :=
  [.field "status" ⟨[.field "status"]⟩ "" ⟨"", .empty⟩ none, .condition "" "False" none]

theorem stalledRules_abort :
    stalledObject.Writable ∧
      firstMatch "web" stalledObject stalledRules
        = .ok (some ⟨"web", "status.conditions[type=]", "False", "type=* status=False",
          some "error condition met for web: condition type= status=False reason=None message="⟩) := by
  have hwritable : stalledObject.Writable := by simp [stalledObject, falseEntry]
  have hstatus : shownOr [] (Value.lookup "status" falseEntry) = .ok (Text.ofString "False") := rfl
  have hready : ¬ Fits [] "False" (.map [("type", .str "Ready"), ("status", .str "True")]) := by
    rintro ⟨-, hstatus, -, hsame | hsame⟩
    · cases hsame
    · rw [hsame] at hstatus
      cases hstatus
  have hfalse : Fits [] "False" (.map falseEntry) := .entry rfl hstatus (.inl rfl) (.inr rfl)
  have hwalk : conditionsPath.walk stalledObject
      = some (.list ([.null, .map [("type", .str "Ready"), ("status", .str "True")]] ++
          .map falseEntry :: [])) := rfl
  have hkey : Text.ofString "status.conditions[type=" ++ [] ++ Text.ofString "]"
      = Text.ofString "status.conditions[type=]" := by decide +kernel
  have hsought : Text.ofString "type=" ++ orAny [] ++ Text.ofString " status=" ++ orAny "False"
      = Text.ofString "type=* status=False" := by decide +kernel
  have htext : messageOr (usualText "web" [] "False" "None" []) none = Text.ofString
      "error condition met for web: condition type= status=False reason=None message=" := by
    decide +kernel
  refine ⟨hwritable, ?_⟩
  refine ((first_rule_that_matches_aborts hwritable "web" stalledRules).2.2.1 _).mpr ?_
  refine ⟨stalledRules.take 1, .condition "" "False" none, [], rfl, ?_, ?_, ?_⟩
  · rintro q hq
    obtain rfl := List.mem_singleton.mp hq
    rintro ⟨v, t, hv, hscalar, -⟩
    cases hv
    exact hscalar
  · exact ⟨_, hwalk, _, by simp, hfalse⟩
  · rw [← hkey, ← hsought, ← htext]
    refine .condition hwalk ?_ hfalse rfl hstatus rfl rfl
    simp only [List.forall_mem_cons]
    exact ⟨nofun, hready, by simp⟩

end Rule

end Settle

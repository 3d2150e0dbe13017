import Settle.Apply.Backoff
import Settle.Config.Location
import Settle.Config.Read
import Settle.Config.Sources
import Settle.Text.Case.Upper

/-!
# Settings

What does not depend on the object: how to reach the cluster, how often to look, how to retry.
Each setting has a default, and each source of settings is checked in the same way.
-/

namespace Settle

structure Settings where
  kubeconfig      : Text
  context         : Text
  /-- The namespace of objects that name none. -/
  scope           : Text
  readInterval    : Binary64
  checkInterval   : Binary64
  removalInterval : Binary64
  retries         : Nat
  initialInterval : Binary64
  maxInterval     : Binary64
  factor          : Binary64
  fieldManager    : Text
  forceConflicts  : Bool
  logLevel        : Text

namespace Settings

def default : Settings where
  kubeconfig      := ""
  context         := ""
  scope           := "default"
  readInterval    := .ofNat 1
  checkInterval   := .ofNat 2
  removalInterval := .ofNat 2
  retries         := 0
  initialInterval := .ofNat 3
  maxInterval     := .ofNat 30
  factor          := .ofDecimal false 15 (-1)
  fieldManager    := "converge"
  forceConflicts  := false
  logLevel        := "INFO"

/-- A setting from the source that decides, or its default. -/
def read {α : Type} (src : Sources) (s : Setting) (default : α) (f : Document → Checked α) :
    Checked α :=
  match src.find? s with
  | none        => .ok default
  | some (w, d) => (f d).inside (.field w)

/-- A location, in which a tilde may stand for a home. -/
def location (homes : Text → Option Text) (d : Document) : Checked Text :=
  if d.isBlank then Read.text d
  else match d with
    | .str t =>
      match (Location.ofText t).expand? homes with
      | some l => Read.text (.str l.text)
      | none   =>
        .error (.failed (.external "RuntimeError" "Could not determine home directory."))
    | _ => .error (.failed .wrongType)

/-- A span of time above zero. -/
def span (d : Document) : Checked Binary64 := do Read.above 0 (← Read.number d)

/-- A number of one at least. -/
def growth (d : Document) : Checked Binary64 := do Read.atLeast 1 (← Read.number d)

/-- An integer that is not negative. -/
def natural (d : Document) : Checked Nat := do
  match ← Read.integer d with
  | .ofNat n   => return n
  | .negSucc _ => Checked.problem (.below 0)

/-- The settings that sources give; `homes` knows the homes of users. -/
def ofSources (homes : Text → Option Text) (src : Sources) : Checked Settings := do
  let get {α : Type} (s : Setting) (a : α) (f : Document → Checked α) := read src s a f
  let d := default
  let cluster := Checked.both (get .kubeconfig d.kubeconfig (location homes))
    (Checked.both (get .context d.context Read.text) (get .scope d.scope Read.text))
  let intervals := Checked.both (get .readInterval d.readInterval span)
    (Checked.both (get .checkInterval d.checkInterval span)
      (get .removalInterval d.removalInterval span))
  let backoff := Checked.both (get .retries d.retries natural)
    (Checked.both (get .initialInterval d.initialInterval span)
      (Checked.both (get .maxInterval d.maxInterval span) (get .factor d.factor growth)))
  let rest := Checked.both (get .fieldManager d.fieldManager Read.text)
    (Checked.both (get .forceConflicts d.forceConflicts Read.boolean)
      (get .logLevel d.logLevel fun l => (Read.text l).map Text.upper))
  let ((kubeconfig, context, ns), (reads, checks, removals),
      (retries, initial, limit, factor), manager, force, level) ←
    Checked.both cluster (Checked.both intervals (Checked.both backoff rest))
  return ⟨kubeconfig, context, ns, reads, checks, removals, retries, initial, limit, factor,
    manager, force, level⟩

/-- The backoff with a timeout. -/
def backoff (s : Settings) (timeout : Binary64) : Backoff Binary64 :=
  ⟨timeout, s.retries, s.initialInterval, s.maxInterval, s.factor⟩

end Settings

end Settle

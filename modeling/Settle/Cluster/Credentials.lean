import Settle.Config.Settings
import Settle.Notice

/-!
# Credentials

Inside a cluster, credentials are at hand. Elsewhere they are read from a file of contexts, which
the settings may name. Both attempts can fail; only the lack of credentials at hand leads to the
second one.
-/

namespace Settle

/-- An attempt to find credentials. -/
inductive Credentials where
  | atHand
  | inFile (location? context? : Option Text)
  deriving DecidableEq

namespace Credentials

/-- What came of looking for credentials. -/
structure Search where
  attempts : List Credentials
  outcome  : Except Failure Credentials
  notices  : List (Notice Binary64)

/-- A text that is not empty. -/
def given? (t : Text) : Option Text := if t.isEmpty then none else some t

/-- The file that the settings ask for. -/
def ofSettings (s : Settings) : Credentials := .inFile (given? s.kubeconfig) (given? s.context)

/-- There are no credentials. -/
def isLack (f : Failure) : Bool := f.kind = "ConfigException"

/-- The outcome of the last attempt, and what is told of it. -/
def conclude (attempts : List Credentials) (last : Credentials) (result : Except Failure Unit) :
    Search :=
  let notices : List (Notice Binary64) := match result, last with
    | .error f, _       => [.noCredentials f]
    | .ok _,    .atHand => [.insideCluster]
    | .ok _,    _       => []
  ⟨attempts ++ [last], result.map fun _ => last, notices⟩

/-- Looks for credentials; `tryOne` is what comes of an attempt. -/
def find (s : Settings) (tryOne : Credentials → Except Failure Unit) : Search :=
  match tryOne .atHand with
  | .error f =>
    if isLack f then conclude [.atHand] (ofSettings s) (tryOne (ofSettings s))
    else conclude [] .atHand (.error f)
  | .ok _ => conclude [] .atHand (.ok ())

end Credentials

end Settle

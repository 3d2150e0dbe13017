import Settle.Document.Basic
import Settle.Failure
import Settle.Text.Case.Lower

/-!
# Sources of settings

A setting has a name in upper case and a key in lower case. It can be given directly, by a
variable of the environment, or in a file; the first of these that gives it decides. Letters of
either case may be used for variables. What stands for a setting under its name comes before what
stands under its key.
-/

namespace Settle

inductive Setting where
  | kubeconfig
  | context
  | scope
  | readInterval
  | checkInterval
  | removalInterval
  | retries
  | initialInterval
  | maxInterval
  | factor
  | fieldManager
  | forceConflicts
  | logLevel
  deriving DecidableEq

structure Sources where
  given       : List (Text × Document)
  environment : List (Text × Text)
  file        : List (Text × Document)

namespace Setting

def name : Setting → Text
  | .kubeconfig      => "K8S_KUBECONFIG"
  | .context         => "K8S_CONTEXT"
  | .scope           => "K8S_NAMESPACE"
  | .readInterval    => "WAITER_POLL_INTERVAL_SECONDS"
  | .checkInterval   => "ERROR_ON_POLL_INTERVAL_SECONDS"
  | .removalInterval => "DELETE_POLL_INTERVAL_SECONDS"
  | .retries         => "APPLY_RETRY_COUNT"
  | .initialInterval => "APPLY_INITIAL_INTERVAL_SECONDS"
  | .maxInterval     => "APPLY_MAX_INTERVAL_SECONDS"
  | .factor          => "APPLY_BACKOFF_MULTIPLIER"
  | .fieldManager    => "FIELD_MANAGER"
  | .forceConflicts  => "FORCE_CONFLICTS"
  | .logLevel        => "LOG_LEVEL"

def key (s : Setting) : Text := s.name.map CodePoint.lower

end Setting

namespace Sources

/-- What stands for a setting in a map, and under which word. -/
def ofEntries? (s : Setting) (es : List (Text × Document)) : Option (Text × Document) :=
  match es.lookup s.name with
  | some d => some (s.name, d)
  | none   => (es.lookup s.key).map (s.key, ·)

/-- The variable for a setting: the last one of its name in letters of any case. -/
def ofEnvironment? (s : Setting) (vars : List (Text × Text)) : Option (Text × Document) :=
  (vars.reverse.find? fun v => v.1.map CodePoint.lower = s.key).map fun v => (s.key, .str v.2)

/-- What is given for a setting, and the word that it goes by. -/
def find? (src : Sources) (s : Setting) : Option (Text × Document) :=
  (ofEntries? s src.given).orElse fun _ =>
    (ofEnvironment? s src.environment).orElse fun _ =>
      (ofEntries? s src.file).map fun e => (s.key, e.2)

/-! ### Files -/

/-- The parts of a collection, of which a pair has two. -/
def parts? : Document → Option (List Document)
  | .str t   => some (t.map fun c => .str [c])
  | .bytes b => some (b.map fun c => .int c.val)
  | .map es  => some (es.map (·.1))
  | d        => d.items?

/-- The entry that a collection of two parts makes; `n` is its number. -/
def pair (n : Nat) (d : Document) : Except Failure (Document × Document) :=
  match parts? d with
  | some [k, v] => if k.isKey then .ok (k, v) else .error .wrongType
  | some ds     => .error (.invalid ("dictionary update sequence element #" ++ Decimal.ofNat n ++
      " has length " ++ Decimal.ofNat ds.length ++ "; 2 is required"))
  | none        => .error .wrongType

def pairsFrom (n : Nat) : List Document → Except Failure (List (Document × Document))
  | []      => .ok []
  | d :: ds => do return (← pair n d) :: (← pairsFrom (n + 1) ds)

/-- The key of an entry, which has to be a text. -/
def named (e : Document × Document) : Except Failure (Text × Document) :=
  match e.1 with
  | .str k => .ok (k, e.2)
  | _      => .error .wrongType

/-- The entries of the document in a file: a map, or a collection of pairs, the last of which
count. -/
def entries (d : Document) : Except Failure (List (Text × Document)) :=
  if d.isBlank then .ok []
  else match d.entries? with
    | some es => es.mapM named
    | none    =>
      match parts? d with
      | none    => .error .wrongType
      | some ds => do return ((← (← pairsFrom 0 ds).mapM named)).reverse

end Sources

end Settle

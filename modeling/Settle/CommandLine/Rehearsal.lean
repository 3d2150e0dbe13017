import Settle.CommandLine.Report

/-!
# Rehearsals

A rehearsal is a document that stands for the surroundings of a command: under `files` the files
that are there, under `environment` its variables, under `inside` whether the command runs inside
the cluster, under `namespaced` whether kinds have namespaces, and under `get`, `apply` and
`delete` what the cluster replies to each request in turn. A reply is a value, a status with a
reason, or the text of another failure, and can have a delay in seconds.
-/

namespace Settle

mutual

/-- A document as a value; what values cannot hold becomes text, and a collection inside itself
null. -/
def Document.toValue : Document → Value
  | .null    => .null
  | .bool b  => .bool b
  | .int n   => .int n
  | .float x => .float x
  | .str t   => .str t
  | .list ds | .tuple ds | .set ds => .list (Document.toValues ds)
  | .map es  => .map (Document.toValueEntries es)
  | .bytes b => .str (Document.bytes b).shown
  | .moment m => .str m.text
  | .again _ => .null

def Document.toValues : List Document → List Value
  | []      => []
  | d :: ds => d.toValue :: Document.toValues ds

def Document.toValueEntries : List (Document × Document) → List (Text × Value)
  | []           => []
  | (k, d) :: es => (k.shown, d.toValue) :: Document.toValueEntries es

end

namespace Rehearsal

/-- The entries of a map; other documents have none. -/
def entriesOf (d : Document) : List (Document × Document) := d.entries?.getD []

/-- What a map has under a key; null if it has nothing. -/
def under (key : Text) (d : Document) : Document :=
  (Document.lookup key (entriesOf d)).getD .null

/-- The texts under texts. -/
def texts (d : Document) : List (Text × Text) := (entriesOf d).map fun e => (e.1.shown, e.2.shown)

/-- A flag, or what it is usually. -/
def flag (usual : Bool) : Document → Bool
  | .bool b => b
  | _       => usual

/-- A number of seconds; zero for anything else. -/
def seconds (d : Document) : Binary64 := (Duration.ofDocument d).toOption.getD 0

/-- A text that may be missing. -/
def optional (d : Document) : Option Text := if d.isNull then none else some d.shown

/-- What a reply brings. -/
def result (d : Document) : Except Failure Value :=
  match under "status" d, optional (under "failure" d) with
  | .int n, _      => .error (.refused ⟨some n, optional (under "reason" d)⟩)
  | _,      some t => .error (.external "RuntimeError" t)
  | _,      none   => .ok (under "value" d).toValue

def reply (d : Document) : Reply Binary64 Value := ⟨result d, seconds (under "delay" d), []⟩

/-- The replies in turn; without any, an empty map each time. -/
def replies (d : Document) : Source Binary64 Value :=
  .ofList ⟨.ok (.map []), 0, []⟩ <| (d.items?.getD []).map reply

/-- What comes of an attempt to find credentials. -/
def credentials (inside : Bool) : Credentials → Except Failure Unit
  | .atHand    => if inside then .ok () else .error (.external "ConfigException" "not in a cluster")
  | .inFile .. => .ok ()

/-- The surroundings that a document stands for. -/
def surroundings (d : Document) : Surroundings :=
  let given := texts (under "environment" d)
  let files := (texts (under "files" d)).map fun f => (Location.ofText f.1, f.2)
  { environment := given
    homes       := fun owner => if owner.isEmpty then List.lookup ("HOME" : Text) given else none
    files       := fun l => files.lookup l
    credentials := credentials (flag false (under "inside" d))
    lookUp      := fun _ _ => .ok (flag true (under "namespaced" d))
    reads       := replies (under "get" d)
    stores      := replies (under "apply" d)
    removals    := replies (under "delete" d) }

end Rehearsal

end Settle

import Settle.CommandLine.Plan
import Settle.Cluster.Credentials

/-!
# Running a command

A command is read, its settings are read, its plan is made, credentials and the kind of the object
are looked up, and the plan is carried out. The report says what was asked of the cluster, what
was told, and with which code the command ends: zero for success, two for an abort, three for a
configuration that is at fault, and one for any other failure.
-/

namespace Settle

/-- What a command has to do with. -/
structure Surroundings where
  environment : List (Text × Text)
  /-- The homes of users. -/
  homes       : Text → Option Text
  files       : Location → Option Text
  /-- What comes of an attempt to find credentials. -/
  credentials : Credentials → Except Failure Unit
  /-- Whether a kind of some version has namespaces. -/
  lookUp      : (version kind : Document) → Except Failure Bool
  reads       : Source Binary64 Value
  stores      : Source Binary64 Value
  removals    : Source Binary64 Value

/-- What is asked of the cluster. -/
inductive Request where
  | credentials (attempt : Credentials)
  | lookup (version kind : Document)
  | read (plan : Plan) (time : Binary64)
  | task (plan : Plan) (time : Binary64)

structure Report where
  code       : Nat
  time       : Binary64
  requests   : List Request
  notices    : List (Notice Binary64)
  /-- What is said of a success. -/
  output?    : Option Text
  /-- What is said of a failure. -/
  complaint? : Option Text
  /-- A failure that the command does not account for. -/
  escaped?   : Option Rejection

/-- How running a command ends. -/
inductive Ending where
  /-- The words make no command. -/
  | misused
  | report (report : Report)
  /-- It goes on for more steps than it was given. -/
  | endless

namespace Report

/-- Nothing has happened yet. -/
def empty : Report := ⟨0, 0, [], [], none, none, none⟩

/-- An end by a failure that is not accounted for. -/
def escaping (r : Report) (f : Rejection) : Report := { r with code := 1, escaped? := some f }

/-- An end with a complaint. -/
def complaining (r : Report) (code : Nat) (what : Text) (f : Text) : Report :=
  { r with code, complaint? := some (what ++ ": " ++ f) }

/-- An end before the plan is carried out. -/
def halting (r : Report) (h : Halt) : Report :=
  if h.isMisconfiguration then r.complaining 3 "Invalid configuration" h.text
  else r.escaping h.rejection

/-- An end by a failure of the wait or the write. -/
def failing (r : Report) (f : Failure) : Report :=
  match f with
  | .aborted _ => r.complaining 2 "Aborted" f.message
  | .absent _ | .misshapen .. | .badPath .. => r.complaining 3 "Invalid configuration" f.message
  | .expired _ | .exhausted .. => r.complaining 1 "Failed" f.message
  | .unmatchable _ | .gone _ | .rollout _ | .refused _ => r.complaining 1 "Error" f.message
  | _ => r.escaping (.failed f)

/-- With further requests and notices. -/
def after (r : Report) (requests : List Request) (notices : List (Notice Binary64)) : Report :=
  { r with requests := r.requests ++ requests, notices := r.notices ++ notices }

/-- What an event asks of the cluster. -/
def request? (p : Plan) : Event Binary64 → Option Request
  | .call .write t => some (.task p t)
  | .call _ t      => some (.read p t)
  | _              => none

/-- What is said of a plan that has been carried out. -/
def success (p : Plan) : Text :=
  p.resource.describe p.name ++ match p.task with
    | .nothing _ => (" converged." : Text)
    | .store ..  => " applied and converged."
    | .remove _  => " deleted."

/-- The end of a plan that has been carried out. -/
def concluding (r : Report) (p : Plan) (e : Ended Binary64 Unit) : Report :=
  let r := { r.after (e.events.filterMap (request? p)) (e.events.filterMap Event.notice?) with
    time := e.time }
  match e.outcome with
  | .ok _    => { r with output? := some (success p) }
  | .error f => r.failing f

/-- Only the notices that are serious enough. -/
def filtered (r : Report) (least : Nat) : Report :=
  { r with notices := r.notices.filter fun n => decide (least ≤ n.level.weight) }

end Report

namespace Command

/-- The file of settings. -/
def settingsFile : Location := .ofText "config.yaml"

/-- The settings that the surroundings give. -/
def settings (around : Surroundings) : Checked Settings := do
  let file ← match around.files settingsFile with
    | none   => pure []
    | some t => (Sources.ofYaml t).mapError .failed
  Settings.ofSources around.homes ⟨[], around.environment, file⟩

/-- The weight of notices that the settings ask for. -/
def threshold (s : Settings) : Except Failure Nat :=
  match Level.threshold? s.logLevel with
  | some n => .ok n
  | none   => .error (.invalid ("Unknown level: " ++ s.logLevel.quoted))

/-- Runs a command under settings. -/
def run [CharacterNames] (around : Surroundings) (s : Settings) (fuel : Nat) (c : Command) :
    Option Report :=
  match Plan.ofCommand s c with
  | .error h => some (Report.empty.halting h)
  | .ok p    =>
    let search := Credentials.find s around.credentials
    let r := Report.empty.after (search.attempts.map .credentials) search.notices
    match search.outcome with
    | .error f => some (r.halting (.failed f))
    | .ok _    =>
      let r := r.after [.lookup p.resource.version p.resource.kind] []
      match around.lookUp p.resource.version p.resource.kind with
      | .error f        => some (r.halting (.failed f))
      | .ok namespaced  =>
        let p := { p with resource := p.resource.within namespaced }
        (p.run s around.reads around.stores around.removals fuel).map (r.concluding p)

/-- Runs the command of a verb. What follows the verb is looked at after the settings. -/
def runVerb [CharacterNames] (around : Surroundings) (fuel : Nat) (verb : Verb)
    (words : List Text) : Ending :=
  match settings around with
  | .error f => .report (Report.empty.escaping f)
  | .ok s    =>
    match threshold s with
    | .error f  => .report (Report.empty.escaping (.failed f))
    | .ok least =>
      match read? around.files verb words with
      | none   => .misused
      | some c =>
        match run around s fuel c with
        | none   => .endless
        | some r => .report (r.filtered least)

/-- Runs the command that words make; there are no options in front of the verb. -/
def runWords [CharacterNames] (around : Surroundings) (fuel : Nat) (words : List Text) : Ending :=
  match if words.head? = some "--" then words.tail else words with
  | []           => .misused
  | word :: rest =>
    match Verb.ofName? word with
    | none      => .misused
    | some verb => runVerb around fuel verb rest

end Command

end Settle

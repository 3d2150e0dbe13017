import Settle.Apply.Session
import Settle.Cluster.Manifest
import Settle.CommandLine.Command
import Settle.Config.File

/-!
# Plans

What a command does is planned from its files before the cluster is asked for anything. A plan
says which object of which resource is meant, what is done to it, and under which configuration.
-/

namespace Settle

/-- What is done to an object before it is waited for. -/
inductive Task where
  | nothing (operation : Operation)
  | store (manifest : Document) (operation : Operation)
  | remove (propagation : Propagation)

structure Plan where
  resource : Resource
  name     : Document
  config   : Config
  task     : Task

/-- Why a command comes to an end before its wait or write begins. -/
inductive Halt where
  /-- Configured data has issues. -/
  | rejected (subject : Text) (issues : List Issue)
  | failed (failure : Failure)

namespace Halt

def ofRejection (subject : Text) : Rejection → Halt
  | .issues is => .rejected subject is
  | .failed f  => .failed f

/-- The configuration is at fault, and not the program. -/
def isMisconfiguration : Halt → Bool
  | .rejected .. => true
  | .failed f    =>
    match f with
    | .invalid _ | .badPath .. | .malformed _ => true
    | .external k _ =>
      [("ConfigException" : Text), "ResourceNotFoundError", "UnicodeDecodeError"].contains k
    | _ => false

/-- What is said of the reason, in one line where it has many issues. -/
def text : Halt → Text
  | .rejected subject is =>
    Decimal.ofNat is.length ++ " validation error" ++
      (if is.length = 1 then ([] : Text) else "s") ++ " for " ++ subject
  | .failed f => f.message

def rejection : Halt → Rejection
  | .rejected _ is => .issues is
  | .failed f      => .failed f

end Halt

namespace Plan

/-- The configuration in a file; a timeout that is not empty replaces all others. -/
def configOf [CharacterNames] (file? : Option File) (timeout? : Option Text) :
    Except Halt Config := do
  let c ← match file? with
    | none   => pure Config.empty
    | some f => (Config.ofYaml f.text).mapError (.ofRejection "ManifestWaitConfig")
  match timeout? with
  | none   => return c
  | some t =>
    if t.isEmpty then return c
    let seconds ← (Duration.ofDocument (.str t)).mapError .failed
    let entry (name : Text) : Document × Document := (.str name, .float seconds)
    let timeouts ←
      (Timeouts.ofDocument (.map [entry "create", entry "update", entry "delete"])).mapError
        (.ofRejection "Timeouts")
    return { c with timeouts := timeouts }

/-- The manifest in a file. -/
def manifestOf (f : File) : Except Halt Document :=
  (do Manifest.ofDocument f.location.text (← Document.ofYaml f.text)).mapError .failed

/-- A plan for what a manifest describes. -/
def ofManifest (s : Settings) (m : Document) (c : Config) (t : Task) : Except Halt Plan :=
  Except.mapError .failed do
    let resource ← Manifest.resource s.scope m
    return { resource, name := ← Manifest.name m, config := c, task := t }

/-- The plan of a command. -/
def ofCommand [CharacterNames] (s : Settings) : Command → Except Halt Plan
  | .wait kind name version scope? file? operation timeout? => do
    let c ← configOf file? timeout?
    let scope := scope?.getD []
    let resource : Resource :=
      ⟨.str version, .str kind, .str (if scope.isEmpty then s.scope else scope)⟩
    return ⟨resource, .str name, c, .nothing operation⟩
  | .apply file file? operation => do
    if operation = .delete then
      throw (.failed (.invalid "apply cannot --operation delete, use the delete command"))
    let c ← configOf file? none
    let m ← manifestOf file
    ofManifest s m c (.store m operation)
  | .delete file file? timeout? propagation => do
    let c ← configOf file? timeout?
    ofManifest s (← manifestOf file) c (.remove propagation)

/-- The timeout that bounds the task and the wait. -/
def timeout (p : Plan) : Binary64 :=
  match p.task with
  | .nothing op | .store _ op => p.config.timeouts.of op
  | .remove _                 => p.config.timeouts.of .delete

/-- The session that carries a plan out. -/
def session (p : Plan) (s : Settings) : Session Binary64 :=
  .ofConfig p.name.shown p.config s none [] p.timeout

/-- Carries a plan out, with what the server replies, if it ends within as many steps. -/
def run (p : Plan) (s : Settings) (reads stores removals : Source Binary64 Value) (fuel : Nat) :
    Option (Ended Binary64 Unit) :=
  let seen : Source Binary64 Value := fun n => p.resource.read p.name (reads n)
  let nothing (e : Ended Binary64 Value) : Ended Binary64 Unit :=
    ⟨e.time, e.outcome.map fun _ => (), e.events⟩
  match p.task with
  | .nothing _  => (p.session s).await (.starting 0 p.timeout) (.shared seen) fuel 0
  | .store _ op =>
    let written : Source Binary64 Value := fun n => p.resource.store p.name (stores n)
    ((p.session s).apply op written (.shared seen) fuel 0).map nothing
  | .remove pr  =>
    let written : Source Binary64 Unit := fun n => p.resource.remove p.name pr.name (removals n)
    (p.session s).delete p.config.timeouts.delete? written seen fuel 0

end Plan

end Settle

import Settle.CommandLine.Arguments
import Settle.Config.Location
import Settle.Config.Timeouts

/-!
# Commands

There is a command to wait for an object, one to apply a manifest and wait for what it describes,
and one to delete that. The files that a command names have to be there.
-/

namespace Settle

/-- A file that has been read. -/
structure File where
  location : Location
  text     : Text

/-- What becomes of the dependents of a deleted object. -/
inductive Propagation where
  | background
  | foreground
  deriving DecidableEq

inductive Command where
  | wait (kind name version : Text) (scope? : Option Text) (config? : Option File)
      (operation : Operation) (timeout? : Option Text)
  | apply (manifest : File) (config? : Option File) (operation : Operation)
  | delete (manifest : File) (config? : Option File) (timeout? : Option Text)
      (propagation : Propagation)

namespace Propagation

def name : Propagation → Text
  | .background => "Background"
  | .foreground => "Foreground"

def ofName? (t : Text) : Option Propagation :=
  if t = "Background" then some .background
  else if t = "Foreground" then some .foreground
  else none

end Propagation

namespace Command

/-- What a command is called. -/
inductive Verb where
  | wait
  | apply
  | delete
  deriving DecidableEq

def Verb.ofName? (t : Text) : Option Verb :=
  if t = "wait" then some .wait
  else if t = "apply" then some .apply
  else if t = "delete" then some .delete
  else none

def Verb.signature : Verb → Signature
  | .wait   => ⟨2, [("--api-version", "version"), ("--namespace", "namespace"),
      ("--config", "config"), ("--operation", "operation"), ("--timeout", "timeout")]⟩
  | .apply  => ⟨0, [("-f", "manifest"), ("--filename", "manifest"), ("--config", "config"),
      ("--operation", "operation")]⟩
  | .delete => ⟨0, [("-f", "manifest"), ("--filename", "manifest"), ("--config", "config"),
      ("--timeout", "timeout"), ("--cascade", "propagation")]⟩

/-- An option, if it is given, or a usual value. -/
def option {α : Type} (a : Arguments) (name : Text) (usual : α) (read? : Text → Option α) :
    Option α :=
  match a.value? name with
  | none   => some usual
  | some t => read? t

/-- The file that a word names. -/
def file? (files : Location → Option Text) (t : Text) : Option File := do
  let l ← Location.ofFile? t
  return ⟨l, ← files l⟩

/-- The command of a verb and the words behind it, unless they make none. -/
def read? (files : Location → Option Text) (v : Verb) (words : List Text) : Option Command := do
  let a ← v.signature.read? words
  let config? ← option a "config" none fun t => (file? files t).map some
  let operation ← option a "operation" .create Operation.ofName?
  match v, a.operands with
  | .wait, [kind, name] =>
    return .wait kind name ((a.value? "version").getD "v1") (a.value? "namespace") config?
      operation (a.value? "timeout")
  | .apply, [] =>
    return .apply (← file? files (← a.value? "manifest")) config? operation
  | .delete, [] =>
    let propagation ← option a "propagation" .background Propagation.ofName?
    return .delete (← file? files (← a.value? "manifest")) config? (a.value? "timeout") propagation
  | _, _ => none

end Command

end Settle

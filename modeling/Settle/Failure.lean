import Settle.Path.Error
import Settle.Value.Basic

/-!
# Failures

Whatever ends a read, a write or a wait before it succeeds. A caller can tell apart a wait that
ran out of time, one that met a state it was told to abort on, and a write that never succeeded.
-/

namespace Settle

/-- The first rule that matched a snapshot, and what it matched. -/
structure Abort where
  resource : Text
  key      : Text
  matched  : Text
  pattern  : Text
  /-- Replaces the usual message, unless it is empty. -/
  message? : Option Text
  deriving DecidableEq

/-- How the server answered a request that it did not carry out. -/
structure Refusal where
  status? : Option Int
  reason? : Option Text
  deriving DecidableEq

inductive Failure where
  /-- A text is no path. -/
  | badPath (text : Text) (fault : PathFault)
  /-- A value of the type named cannot be matched. -/
  | unmatchable (typeName : Text)
  /-- A path leads nowhere in an object of known shape. -/
  | absent (path : Text)
  /-- The resource does not exist any more. -/
  | gone (name : Text)
  /-- A value does not have the shape declared at an attribute path. -/
  | misshapen (path detail : Text)
  /-- The rollout of a workload has failed or cannot be judged. -/
  | rollout (problem : Text)
  /-- The deadline passed. -/
  | expired (reason : Text)
  /-- A rule to abort on matched. -/
  | aborted (abort : Abort)
  /-- The last of several attempts failed. -/
  | exhausted (attempts : Nat) (last : Failure)
  /-- The cause is not worth another attempt. -/
  | permanent (cause : Failure)
  /-- The server refused. -/
  | refused (refusal : Refusal)
  /-- A value is not acceptable. -/
  | invalid (message : Text)
  /-- An operation met a value of the wrong type. -/
  | wrongType
  /-- A value that should be a map is something else. -/
  | notMap
  /-- A number is too large. -/
  | overflow
  /-- A document is not well formed; the context is what was being read. -/
  | malformed (context : Text)
  /-- Another failure, of the kind named. -/
  | external (kind text : Text)
  deriving DecidableEq, Inhabited

namespace Abort

/-- The rule's own message, or what matched. -/
def text (a : Abort) : Text :=
  match a.message? with
  | some (c :: t) => c :: t
  | _ =>
    "error condition met for " ++ a.resource ++ ": field " ++ a.key ++ "=" ++ a.matched ++
      " matched pattern " ++ a.pattern

end Abort

namespace Refusal

def text (r : Refusal) : Text :=
  let status : Text := match r.status? with
    | some n => Decimal.ofInt n
    | none   => "None"
  "(" ++ status ++ ")\nReason: " ++ r.reason?.getD "None" ++ "\n"

end Refusal

namespace Failure

/-- The name a failure is reported under. -/
def kind : Failure → Text
  | .badPath ..     => "PathSyntaxError"
  | .unmatchable _  => "MatchTypeError"
  | .absent _       => "AttributeNotPresentError"
  | .gone _         => "ResourceGoneError"
  | .misshapen ..   => "ShapeMismatchError"
  | .rollout _      => "RolloutStatusError"
  | .expired _      => "WaiterError"
  | .aborted _      => "AbortError"
  | .exhausted ..   => "ApplyError"
  | .permanent _    => "PermanentError"
  | .refused _      => "ApiException"
  | .invalid _      => "ValueError"
  | .wrongType      => "TypeError"
  | .notMap         => "AttributeError"
  | .overflow       => "OverflowError"
  | .malformed _    => "YAMLError"
  | .external k _   => k

/-- What a failure says. -/
def message : Failure → Text
  | .badPath t f      => "invalid field path " ++ t.quoted ++ ": " ++ f.detail
  | .unmatchable n    => "wait_for: cannot match on type " ++ n.quoted
  | .absent p         => "attribute not present at path '" ++ p ++ "'"
  | .gone n           => "resource was deleted: " ++ n
  | .misshapen p d    =>
    "cannot convert value at '" ++ (if p.isEmpty then ("<root>" : Text) else p) ++ "': " ++ d
  | .rollout p        => p
  | .expired r        => "timed out waiting on " ++ r
  | .aborted a        => a.text
  | .exhausted n last =>
    "could not apply manifest after " ++ Decimal.ofNat n ++ " attempt(s): " ++ last.message
  | .permanent cause  => cause.message
  | .refused r        => r.text
  | .invalid m        => m
  | .wrongType        => "a value has the wrong type"
  | .notMap           => "a value is not a map"
  | .overflow         => "a number is too large"
  | .malformed c      => c
  | .external k t     => if k = "KeyError" then t.quoted else t

/-- The failures that this library's own operations are meant to end with. -/
def isOwn : Failure → Bool
  | .badPath .. | .unmatchable _ | .absent _ | .gone _ | .misshapen .. | .rollout _
  | .expired _ | .aborted _ | .exhausted .. => true
  | _ => false

/-- The failure of reading a text as a path. -/
def ofPathError (text : Text) : PathError → Failure
  | .fault f        => .badPath text f
  | .longIndex n    => .invalid (Decimal.tooLongToRead n)
  | .hugeCodePoint  => .overflow

end Failure

end Settle

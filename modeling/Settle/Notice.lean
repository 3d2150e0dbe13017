import Settle.Config.Timeouts
import Settle.Failure
import Settle.Number.Rounded

/-!
# Notices

What is told about a wait or a write while it goes on, line by line: how serious it is, which
part tells it, and in which words.
-/

namespace Settle

inductive Level where
  | info
  | warning
  | error
  deriving DecidableEq

/-- The part that tells something. -/
inductive Teller where
  | wait
  | race
  | retry
  | session
  | cluster
  deriving DecidableEq

inductive Notice (τ : Type) where
  /-- A wait begins. -/
  | awaiting (reason name : Text)
  | reached (name : Text)
  | awaitingRemoval (name : Text)
  | removed (name : Text)
  | aborting (name : Text) (abort : Abort)
  /-- A write begins. -/
  | applying (label : Text)
  | applied (label : Text)
  | retrying (span : τ) (failure : Failure)
  | failedForGood (label : Text) (cause : Failure)
  | givingUp (label : Text) (attempts : Nat)
  /-- A write has succeeded, and the object is waited for. -/
  | settling (operation : Operation) (name : Text) (strategy? : Option Text) (timeout : τ)
  /-- A deletion has been requested; without a timeout of its own the usual one applies. -/
  | leaving (name : Text) (timeout? : Option τ)
  /-- An object was not found when it was read. -/
  | vanished (object : Text)
  | readFailed (object : Text) (refusal : Refusal)
  | stored (object : Text)
  | rejected (object : Text) (refusal : Refusal)
  | storeFailed (object : Text) (refusal : Refusal)
  | deletionRequested (object propagation : Text)
  | alreadyDeleted (object : Text)
  | deletionFailed (object : Text) (refusal : Refusal)
  | insideCluster
  | noCredentials (failure : Failure)

namespace Level

def name : Level → Text
  | .info    => "INFO"
  | .warning => "WARNING"
  | .error   => "ERROR"

/-- How serious something is, as a number. -/
def weight : Level → Nat
  | .info    => 20
  | .warning => 30
  | .error   => 40

/-- The weight that a name asks for at least. -/
def threshold? (name : Text) : Option Nat :=
  let names : List (Text × Nat) := [("NOTSET", 0), ("DEBUG", 10), ("INFO", 20), ("WARN", 30),
    ("WARNING", 30), ("ERROR", 40), ("FATAL", 50), ("CRITICAL", 50)]
  names.lookup name

end Level

namespace Teller

def name : Teller → Text
  | .wait    => "converge.services.waiter.waiters"
  | .race    => "converge.services.waiter.coordinator"
  | .retry   => "converge.services.apply.retry"
  | .session => "converge.services.apply.workflow"
  | .cluster => "root"

end Teller

namespace Notice

variable {τ : Type}

def level : Notice τ → Level
  | .retrying .. | .storeFailed .. | .deletionFailed .. => .warning
  | .failedForGood .. | .givingUp .. | .readFailed .. | .rejected .. | .noCredentials _ => .error
  | _ => .info

def teller : Notice τ → Teller
  | .awaiting .. | .reached _ | .awaitingRemoval _ | .removed _ => .wait
  | .aborting .. => .race
  | .applying _ | .applied _ | .retrying .. | .failedForGood .. | .givingUp .. => .retry
  | .settling .. | .leaving .. => .session
  | _ => .cluster

/-- The line that is told. -/
def text : Notice Binary64 → Text
  | .awaiting reason name => "[Wait] Waiting until " ++ reason ++ " on " ++ name ++ "..."
  | .reached name => "[Wait] Done waiting on " ++ name ++ "."
  | .awaitingRemoval name => "[Delete] Waiting for " ++ name ++ " to be deleted..."
  | .removed name => "[Delete] Confirmed " ++ name ++ " deleted."
  | .aborting name abort => "[Wait] Aborting wait on " ++ name ++ ": " ++ abort.text
  | .applying label => "[Apply] Applying " ++ label ++ "..."
  | .applied label => "[Apply] " ++ label ++ " applied."
  | .retrying span failure =>
    "Retrying asyncio.threads.to_thread in " ++ span.brief 3 ++ " seconds as it raised " ++
      failure.kind ++ ": " ++ failure.message ++ "."
  | .failedForGood label cause => "[Apply] " ++ label ++ " failed permanently: " ++ cause.message
  | .givingUp label attempts =>
    "[Apply] Giving up on " ++ label ++ " after " ++ Decimal.ofNat attempts ++ " attempt(s)"
  | .settling operation name strategy? timeout =>
    "[Apply] " ++ operation.name ++ " " ++ name ++ ": waiting (strategy=" ++
      strategy?.getD "None" ++ ", timeout=" ++ timeout.text ++ "s)"
  | .leaving name timeout? =>
    let timeout : Text := match timeout? with
      | some t => t.text
      | none   => Decimal.ofNat Timeouts.defaultSeconds
    "[Delete] " ++ name ++ ": waiting for removal (timeout=" ++ timeout ++ "s)"
  | .vanished object => object ++ " no longer exists."
  | .readFailed object refusal => "Failed to read " ++ object ++ ": " ++ refusal.text
  | .stored object => object ++ " applied."
  | .rejected object refusal =>
    object ++ " was rejected by the server: " ++ refusal.reason?.getD "None"
  | .storeFailed object refusal => "Failed to apply " ++ object ++ ": " ++ refusal.text
  | .deletionRequested object propagation =>
    object ++ " deletion requested (" ++ propagation ++ ")."
  | .alreadyDeleted object => object ++ " is already deleted."
  | .deletionFailed object refusal => "Failed to delete " ++ object ++ ": " ++ refusal.text
  | .insideCluster => "Using in-cluster Kubernetes configuration."
  | .noCredentials failure => "Failed to load Kubernetes configuration: " ++ failure.message

/-- The line with how serious it is and who tells it. -/
def line (n : Notice Binary64) : Text := n.level.name ++ " " ++ n.teller.name ++ ": " ++ n.text

end Notice

end Settle

import Settle.Rollout.Count

/-!
# Rollout status

A rollout is done when the controller has seen the object's latest generation and all replicas
that are wanted have been updated and are available. What that means in detail depends on the
kind of workload.
-/

namespace Settle

/-- The kinds of workload that can be rolled out. -/
inductive Workload where
  | deployment
  | daemonSet
  | statefulSet
  deriving DecidableEq

/-- How far a rollout is. -/
structure Progress where
  message : Text
  done    : Bool
  deriving DecidableEq

namespace Rollout

/-- The strategy that applies where none is named. -/
def rollingUpdate : Text := "RollingUpdate"

/-- The annotation that holds the revision of a deployment. -/
def revisionKey : Text := "deployment.kubernetes.io/revision"

/-- The reason of a condition that says that a rollout has failed. -/
def deadlineExceeded : Text := "ProgressDeadlineExceeded"

/-- The API group and the kind of an object. -/
def groupKind (object : Value) : Except Failure (Text × Text) := do
  let orEmpty (v : Value) : Except Failure Text := if v.isBlank then .ok [] else shown v
  let version ← orEmpty (← field "apiVersion" object)
  let group := match version.reverse.dropWhile (· ≠ CodePoint.ofChar '/') with
    | _ :: before => before.reverse
    | []          => []
  return (group, ← orEmpty (← field "kind" object))

/-- The workload of a group and kind, if it is one. -/
def workload? (group kind : Text) : Option Workload :=
  if (group = "apps" || group = "extensions") && kind = "Deployment" then some .deployment
  else if (group = "apps" || group = "extensions") && kind = "DaemonSet" then some .daemonSet
  else if group = "apps" && kind = "StatefulSet" then some .statefulSet
  else none

/-- The workload of a group and kind. -/
def workload (group kind : Text) : Except Failure Workload :=
  match workload? group kind with
  | some w => .ok w
  | none   =>
    .error (.rollout ("no status viewer has been implemented for " ++ kind ++ "." ++ group))

/-- The name of an object. -/
def name (object : Value) : Except Failure Text := do
  match ← section? "metadata" object with
  | .map entries => shown ((Value.lookup "name" entries).getD (.str []))
  | _            => .error .notMap

/-- The controller has seen the latest generation. -/
def observed (object : Value) : Except Failure Bool := do
  let metadata ← section? "metadata" object
  let status ← section? "status" object
  let generation ← countOf "generation" metadata
  return generation ≤ (← countOf "observedGeneration" status)

/-- The update strategy is the one whose status can be told. -/
def checkStrategy (spec : Value) : Except Failure Unit := do
  let type ← field "type" (← section? "updateStrategy" spec)
  let type ← if type.isBlank then .ok rollingUpdate else shown type
  if type ≠ rollingUpdate then
    .error (.rollout "rollout status is only available for RollingUpdate strategy type")
  else .ok ()

private def waiting (what : Text) : Progress := ⟨what, false⟩

@[simp] theorem done_waiting (what : Text) : (waiting what).done = false := rfl

/-! ### Deployments -/

/-- The revision that is running is the one wanted. -/
def checkRevision (object : Value) (name : Text) (revision : Int) : Except Failure Unit := do
  let annotations ← section? "annotations" (← section? "metadata" object)
  let written ← match annotations with
    | .map entries => .ok ((Value.lookup revisionKey entries).getD (.str []))
    | _            => .error Failure.notMap
  match toInteger written with
  | .error (.invalid e) =>
    .error (.rollout ("cannot get the revision of deployment " ++ name.quoted ++ ": " ++ e))
  | .error e => .error e
  | .ok running =>
    if running ≠ revision then
      .error (.rollout ("desired revision (" ++ (← write revision) ++
        ") is different from the running revision (" ++ (← write running) ++ ")"))
    else .ok ()

/-- A condition says that the rollout has failed. -/
def isFailed (condition : Value) : Except Failure Bool := do
  let type ← field "type" condition
  if type.same (.str "Progressing") then
    return (← field "reason" condition).same (.str deadlineExceeded)
  else return false

/-- The entries of a list; other values that are not blank have none that could be read. -/
def conditions (v : Value) : Except Failure (List Value) :=
  if v.isBlank then .ok []
  else match v with
    | .list vs        => .ok vs
    | .str _ | .map _ => .error .notMap
    | _               => .error .wrongType

/-- No condition says that the rollout has failed. -/
def checkConditions (name : Text) : List Value → Except Failure Unit
  | []      => .ok ()
  | c :: cs => do
    if ← isFailed c then
      .error (.rollout ("deployment " ++ name.quoted ++ " exceeded its progress deadline"))
    else checkConditions name cs

def deployment (object : Value) (revision : Int) : Except Failure Progress := do
  let name ← name object
  let spec ← section? "spec" object
  let status ← section? "status" object
  if 0 < revision then checkRevision object name revision
  if !(← observed object) then
    return waiting "Waiting for deployment spec update to be observed..."
  checkConditions name (← conditions (← field "conditions" status))
  let finishing : Text := "Waiting for deployment " ++ name.quoted ++ " rollout to finish: "
  let updated ← countOf "updatedReplicas" status
  let wanted ← field "replicas" spec
  let wantedCount ← if wanted.isNull then .ok updated else count wanted
  if updated < wantedCount then
    return waiting (finishing ++ (← write updated) ++ " out of " ++ (← write wantedCount) ++
      " new replicas have been updated...")
  let replicas ← countOf "replicas" status
  if updated < replicas then
    return waiting (finishing ++ (← write (replicas - updated)) ++
      " old replicas are pending termination...")
  let available ← countOf "availableReplicas" status
  if available < updated then
    return waiting (finishing ++ (← write available) ++ " of " ++ (← write updated) ++
      " updated replicas are available...")
  return ⟨"deployment " ++ name.quoted ++ " successfully rolled out", true⟩

/-! ### Daemon sets -/

def daemonSet (object : Value) : Except Failure Progress := do
  let name ← name object
  let spec ← section? "spec" object
  let status ← section? "status" object
  checkStrategy spec
  if !(← observed object) then
    return waiting "Waiting for daemon set spec update to be observed..."
  let finishing : Text := "Waiting for daemon set " ++ name.quoted ++ " rollout to finish: "
  let desired ← countOf "desiredNumberScheduled" status
  let updated ← countOf "updatedNumberScheduled" status
  if updated < desired then
    return waiting (finishing ++ (← write updated) ++ " out of " ++ (← write desired) ++
      " new pods have been updated...")
  let available ← countOf "numberAvailable" status
  if available < desired then
    return waiting (finishing ++ (← write available) ++ " of " ++ (← write desired) ++
      " updated pods are available...")
  return ⟨"daemon set " ++ name.quoted ++ " successfully rolled out", true⟩

/-! ### Stateful sets -/

/-- With a partition, only the pods above it are updated. -/
def partitioned (status replicas limit : Value) : Except Failure Progress := do
  let updated ← countOf "updatedReplicas" status
  if !replicas.isNull then
    let wanted ← minus replicas (← count limit)
    if ← isBelow updated wanted then
      return waiting ("Waiting for partitioned roll out to finish: " ++ (← write updated) ++
        " out of " ++ (← shown wanted) ++ " new pods have been updated...")
  return ⟨"partitioned roll out complete: " ++ (← write updated) ++
    " new pods have been updated...", true⟩

def statefulSet (object : Value) : Except Failure Progress := do
  let spec ← section? "spec" object
  let status ← section? "status" object
  checkStrategy spec
  if (← countOf "observedGeneration" status) = 0 then
    return waiting "Waiting for statefulset spec update to be observed..."
  if !(← observed object) then
    return waiting "Waiting for statefulset spec update to be observed..."
  let replicas ← field "replicas" spec
  let ready ← countOf "readyReplicas" status
  if !replicas.isNull then
    if ← isBelow ready replicas then
      return waiting ("Waiting for " ++ (← shown (← minus replicas ready)) ++
        " pods to be ready...")
  let limit ← field "partition" (← section? "rollingUpdate" (← section? "updateStrategy" spec))
  if !limit.isNull then partitioned status replicas limit
  else
    let update ← field "updateRevision" status
    let current ← field "currentRevision" status
    if !update.same current then
      return waiting ("waiting for statefulset rolling update to complete " ++
        (← write (← countOf "updatedReplicas" status)) ++ " pods at revision " ++
        (← shown update) ++ "...")
    return ⟨"statefulset rolling update complete " ++
      (← write (← countOf "currentReplicas" status)) ++ " pods at revision " ++
      (← shown current) ++ "...", true⟩

/-- The status of a workload; a revision above zero has to be the one that is running. -/
def status (w : Workload) (object : Value) (revision : Int) : Except Failure Progress :=
  match w with
  | .deployment  => deployment object revision
  | .daemonSet   => daemonSet object
  | .statefulSet => statefulSet object

end Rollout

end Settle

import Settle.Match
import Settle.Path.Walk
import Settle.Value.Shown

/-!
# Rules to abort on

A rule describes a state that a wait cannot recover from: a scalar at a path in which a pattern
is found, or a condition of some type and status. Rules are tried in order on each snapshot on
its own, and the first that matches aborts the wait.
-/

namespace Settle

inductive Rule where
  /-- The shortest text of the scalar at `path` matches. -/
  | field (key : Text) (path : Path) (value : Text) (pattern : Pattern) (message? : Option Text)
  /-- There is a condition of this type and status, where an empty text stands for any. -/
  | condition (type status : Text) (message? : Option Text)

namespace Rule

/-- A rule about a field from configured texts; a wildcard is an ordinary value. -/
def ofField [CharacterNames] (key value : Text) (how : Comparison) (message? : Option Text) :
    Except Failure Rule := do
  let pattern ← (Pattern.ofValue value how false).mapError
    (Failure.ofPatternError "error_on: invalid regex" value value)
  return .field key (← Path.ofText key) value pattern message?

/-- Where the conditions of an object are. -/
def conditionsPath : Path := ⟨[.field "status", .field "conditions"]⟩

/-- A value in running text, or what stands for one that is missing. -/
def shownOr (missing : Text) : Option Value → Except Failure Text
  | none   => .ok missing
  | some v => v.shown.mapError .invalid

/-- An empty text stands for any. -/
def orAny (t : Text) : Text := if t.isEmpty then "*" else t

/-- What is reported of a matching entry. -/
def ofEntry (resource type status : Text) (message? : Option Text) (entry : List (Text × Value))
    (foundType foundStatus : Text) : Except Failure Abort := do
  let usual : Except Failure Text := do
    return "error condition met for " ++ resource ++ ": condition type=" ++ foundType ++
      " status=" ++ foundStatus ++
      " reason=" ++ (← shownOr [] (Value.lookup "reason" entry)) ++
      " message=" ++ (← shownOr [] (Value.lookup "message" entry))
  let text ← match message? with
    | some (c :: t) => pure (c :: t)
    | _             => usual
  return ⟨resource, "status.conditions[type=" ++ foundType ++ "]", foundStatus,
    "type=" ++ orAny type ++ " status=" ++ orAny status, some text⟩

/-- The first entry of the type and status sought. -/
def findEntry (resource type status : Text) (message? : Option Text) :
    List Value → Except Failure (Option Abort)
  | [] => .ok none
  | .map entry :: rest => do
    let foundType ← shownOr [] (Value.lookup "type" entry)
    let foundStatus ← shownOr [] (Value.lookup "status" entry)
    if (type.isEmpty || foundType = type) && (status.isEmpty || foundStatus = status) then
      return some (← ofEntry resource type status message? entry foundType foundStatus)
    else findEntry resource type status message? rest
  | _ :: rest => findEntry resource type status message? rest

/-- What a rule finds in a snapshot of the resource named. -/
def check (resource : Text) (object : Value) : Rule → Except Failure (Option Abort)
  | .field key path value pattern message? =>
    match path.walk object with
    | none | some .null => .ok none
    | some v =>
      match v.scalarText .shortest with
      | .error (.notScalar _) => .ok none
      | .error .tooLong => .error (.invalid Decimal.tooLongToWrite)
      | .ok text =>
        if pattern.foundIn text then .ok (some ⟨resource, key, text, value, message?⟩)
        else .ok none
  | .condition type status message? =>
    match conditionsPath.walk object with
    | some (.list entries) => findEntry resource type status message? entries
    | _ => .ok none

/-- What the first rule that matches finds. -/
def firstMatch (resource : Text) (object : Value) : List Rule → Except Failure (Option Abort)
  | []         => .ok none
  | r :: rules => do
    match ← r.check resource object with
    | some abort => return some abort
    | none       => firstMatch resource object rules

end Rule

end Settle

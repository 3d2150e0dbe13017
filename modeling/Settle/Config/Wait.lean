import Settle.Config.Read
import Settle.Match

/-!
# What to wait for

A wait block asks for the end of a rollout, for conditions, or for fields, and for one of the
three only. An empty block asks for nothing.
-/

namespace Settle

/-- How a value is compared, by name. -/
def Read.comparison (d : Document) : Checked Comparison :=
  match Read.text d with
  | .ok t =>
    match Comparison.ofName? t with
    | some how => .ok how
    | none     => Checked.problem (.notOneOf "'eq' or 'regex'")
  | .error _ => Checked.problem (.notOneOf "'eq' or 'regex'")

/-- A field to wait for, and the matcher that its texts give. -/
structure WaitField where
  key     : Text
  value   : Text
  how     : Comparison
  matcher : Matcher

inductive WaitBlock where
  | nothing
  | rollout
  | conditions (first : Condition) (rest : List Condition)
  | fields (first : WaitField) (rest : List WaitField)

namespace WaitField

def ofDocument [CharacterNames] (d : Document) : Checked WaitField := do
  let es ← Read.entries "WaitFieldConfig" d
  let (key, value, how) ← Checked.both (Read.required "key" Read.text es)
    (Checked.both (Read.required "value" Read.text es)
      (Read.optional "value_type" .equal Read.comparison es))
  return ⟨key, value, how, ← Checked.ofAttempt (Matcher.build key value how)⟩

end WaitField

def Condition.ofDocument (d : Document) : Checked Condition := do
  let es ← Read.entries "WaitConditionConfig" d
  let (type, status) ← Checked.both (Read.required "type" Read.text es)
    (Read.required "status" Read.text es)
  return ⟨type, status⟩

namespace WaitBlock

/-- The parts of a block that are given, at most one of which may be. -/
def select (rollout : Bool) (conditions : List Condition) (fields : List WaitField) :
    Checked WaitBlock :=
  match rollout, conditions, fields with
  | false, [],      []      => .ok .nothing
  | true,  [],      []      => .ok .rollout
  | false, c :: cs, []      => .ok (.conditions c cs)
  | false, [],      f :: fs => .ok (.fields f fs)
  | _,     _,       _       =>
    let given (name : Text) (yes : Bool) : List Text := if yes then [name] else []
    let names := given "rollout" rollout ++ given "condition" (!conditions.isEmpty) ++
      given "field" (!fields.isEmpty)
    Checked.problem (.refused
      ("wait block may set only one of rollout, condition or field, got: " ++
        Text.join ", " names))

def ofDocument [CharacterNames] (d : Document) : Checked WaitBlock := do
  let es ← Read.entries "WaitConfig" d
  let (rolling, cs, fs) ←
    Checked.both (Read.optional "rollout" false Read.boolean es)
      (Checked.both (Read.optional "condition" [] (Read.list Condition.ofDocument) es)
        (Read.optional "field" [] (Read.list WaitField.ofDocument) es))
  select rolling cs fs

/-- The name of what is waited for. -/
def strategy? : WaitBlock → Option Text
  | .nothing       => none
  | .rollout       => some "rollout"
  | .conditions .. => some "condition"
  | .fields ..     => some "field"

end WaitBlock

end Settle

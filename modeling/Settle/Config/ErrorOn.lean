import Settle.Config.Wait
import Settle.Rule

/-!
# What to abort on

An error-on block holds rules about fields and rules about conditions. All rules about fields are
tried first. A type or status that is null or empty stands for any.
-/

namespace Settle

/-- A field to abort on, and the rule that its texts give. -/
structure ErrorField where
  key      : Text
  value    : Text
  how      : Comparison
  message? : Option Text
  rule     : Rule

structure ErrorCondition where
  type?    : Option Text
  status?  : Option Text
  message? : Option Text
  deriving DecidableEq

structure ErrorOnBlock where
  fields     : List ErrorField
  conditions : List ErrorCondition

namespace ErrorField

def ofDocument [CharacterNames] (d : Document) : Checked ErrorField := do
  let es ← Read.entries "ErrorOnFieldConfig" d
  let (key, value, how, message?) ← Checked.both (Read.required "key" Read.text es)
    (Checked.both (Read.required "value" Read.text es)
      (Checked.both (Read.optional "value_type" .regex Read.comparison es)
        (Read.optional "message" none (Read.orNull Read.text) es)))
  return ⟨key, value, how, message?, ← Checked.ofAttempt (Rule.ofField key value how message?)⟩

end ErrorField

namespace ErrorCondition

def ofDocument (d : Document) : Checked ErrorCondition := do
  let es ← Read.entries "ErrorOnConditionConfig" d
  let text (name : Text) := Read.optional name none (Read.orNull Read.text) es
  let (type?, status?, message?) ←
    Checked.both (text "type") (Checked.both (text "status") (text "message"))
  return ⟨type?, status?, message?⟩

def rule (c : ErrorCondition) : Rule :=
  .condition (c.type?.getD []) (c.status?.getD []) c.message?

end ErrorCondition

namespace ErrorOnBlock

def ofDocument [CharacterNames] (d : Document) : Checked ErrorOnBlock := do
  let es ← Read.entries "ErrorOnConfig" d
  let (fields, conditions) ←
    Checked.both (Read.optional "field" [] (Read.list ErrorField.ofDocument) es)
      (Read.optional "condition" [] (Read.list ErrorCondition.ofDocument) es)
  return ⟨fields, conditions⟩

def rules (b : ErrorOnBlock) : List Rule :=
  b.fields.map ErrorField.rule ++ b.conditions.map ErrorCondition.rule

end ErrorOnBlock

end Settle

import Settle.Config.ErrorOn
import Settle.Config.Timeouts

/-!
# Configuration of one wait

What to wait for, what to abort on, and how long.
-/

namespace Settle

structure Config where
  wait?    : Option WaitBlock
  errorOn? : Option ErrorOnBlock
  timeouts : Timeouts

namespace Config

/-- No block is given. -/
def empty : Config := ⟨none, none, ⟨none, none, none⟩⟩

def ofDocument [CharacterNames] (d : Document) : Checked Config := do
  let es ← Read.entries "ManifestWaitConfig" d
  let (wait?, errorOn?, timeouts) ←
    Checked.both (Read.optional "wait" none (Read.orNull WaitBlock.ofDocument) es)
      (Checked.both (Read.optional "error_on" none (Read.orNull ErrorOnBlock.ofDocument) es)
        (Read.optional "timeouts" empty.timeouts Timeouts.ofDocument es))
  return ⟨wait?, errorOn?, timeouts⟩

/-- The rules to abort on. -/
def rules (c : Config) : List Rule := (c.errorOn?.map ErrorOnBlock.rules).getD []

/-- The name of what is waited for. -/
def strategy? (c : Config) : Option Text := c.wait?.bind WaitBlock.strategy?

end Config

end Settle

import Settle.Config.Basic
import Settle.Config.Sources
import Settle.Yaml.Read

/-!
# Files of configuration

The configuration of a wait and the settings can be written to files. A file with nothing in it
gives nothing.
-/

namespace Settle

/-- The configuration that the text of a file gives. -/
def Config.ofYaml [CharacterNames] (t : Text) : Checked Config := do
  let d ← (Document.ofYaml t).mapError .failed
  Config.ofDocument (if d.isBlank then .map [] else d)

/-- The settings that the text of a file gives. -/
def Sources.ofYaml (t : Text) : Except Failure (List (Text × Document)) := do
  entries (← Document.ofYaml t)

end Settle

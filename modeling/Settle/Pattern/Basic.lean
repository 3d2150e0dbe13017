import Settle.Pattern.Parser
import Settle.Pattern.Search

/-!
# Patterns

A pattern is a regular expression together with its source. It is found in a text if it matches
any part of it.

A value can be turned into a pattern that is found in that value alone: the source is the value
with every special code point escaped, between the start and the end of the text. The value `*`
can also stand for any text.
-/

namespace Settle

structure Pattern where
  source : Text
  node   : Pattern.Node

/-- How a configured value is compared with a text. -/
inductive Comparison where
  /-- The text is the value. -/
  | equal
  /-- The value is a regular expression that is found in the text. -/
  | regex
  deriving DecidableEq

namespace Comparison

def name : Comparison → Text
  | .equal => "eq"
  | .regex => "regex"

/-- The comparison of a name. -/
def ofName? (t : Text) : Option Comparison :=
  if t = "eq" then some .equal else if t = "regex" then some .regex else none

end Comparison

namespace Pattern

/-- Has a meaning of its own in some expression. -/
def isSpecial (c : CodePoint) : Bool :=
  (Text.ofString "()[]\x7b\x7d?*+-|^$\\.&~# \t\n\r\x0b\x0c").contains c

/-- The text with a backslash before every special code point. -/
def escape (t : Text) : Text :=
  t.flatMap fun c => if isSpecial c then ['\\', c] else [c]

/-- The source of the pattern that is found in `t` alone. -/
def exactSource (t : Text) : Text := "^" ++ escape t ++ "\\Z"

/-- The value that can stand for any text. -/
def wildcard : Text := "*"

/-- The source of the pattern that is found in any text. -/
def anySource : Text := "(.*)?"

def compile [CharacterNames] (source : Text) : Except PatternError Pattern :=
  (Node.parse source).map fun n => ⟨source, n⟩

/-- The pattern of a configured value; `anyText` if a wildcard is one. -/
def ofValue [CharacterNames] (value : Text) (how : Comparison) (anyText : Bool) :
    Except PatternError Pattern :=
  if anyText && value = wildcard then compile anySource
  else match how with
    | .equal => compile (exactSource value)
    | .regex => compile value

/-- The pattern is found in the text. -/
def foundIn (p : Pattern) (t : Text) : Bool := p.node.foundIn t

end Pattern

end Settle

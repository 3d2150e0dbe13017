import Settle.Pattern.Basic

/-!
# Kinds of nodes

A tag says what kind of value a node is. A plain scalar without a tag has the kind that it is
spelled like, and is a text if it is spelled like no other.
-/

namespace Settle.Yaml

inductive Kind where
  | null
  | bool
  | int
  | float
  | text
  | bytes
  | moment
  | sequence
  | mapping
  | set
  | pairs
  | orderedMap
  /-- The key whose value is merged into its mapping. -/
  | merge
  /-- The key whose value stands for its mapping where a scalar is wanted. -/
  | default
  | other (tag : Text)
  deriving DecidableEq

namespace Kind

/-- What the tags of the known kinds begin with. -/
def stem : Text := "tag:yaml.org,2002:"

def names : List (Text × Kind) :=
  [("null", .null), ("bool", .bool), ("int", .int), ("float", .float), ("str", .text),
    ("binary", .bytes), ("timestamp", .moment), ("seq", .sequence), ("map", .mapping),
    ("set", .set), ("pairs", .pairs), ("omap", .orderedMap), ("merge", .merge),
    ("value", .default)]

def ofTag (tag : Text) : Kind :=
  match Text.after? stem tag with
  | some name => (names.lookup name).getD (.other tag)
  | none      => .other tag

def tag : Kind → Text
  | .other t => t
  | k        => stem ++ ((names.find? (·.2 = k)).map (·.1)).getD []

/-! ### Spellings -/

/-- What plain scalars of a kind look like, from the first to the last character. -/
def spellings : List (Kind × String) := [
  (.bool, "yes|Yes|YES|no|No|NO|true|True|TRUE|false|False|FALSE|on|On|ON|off|Off|OFF"),
  (.float, "[-+]?[0-9][0-9_]*\\.[0-9_]*(?:[eE][-+][0-9]+)?" ++
    "|\\.[0-9][0-9_]*(?:[eE][-+][0-9]+)?" ++
    "|[-+]?[0-9][0-9_]*(?::[0-5]?[0-9])+\\.[0-9_]*" ++
    "|[-+]?\\.(?:inf|Inf|INF)|\\.(?:nan|NaN|NAN)"),
  (.int, "[-+]?0b[0-1_]+|[-+]?0[0-7_]+|[-+]?(?:0|[1-9][0-9_]*)|[-+]?0x[0-9a-fA-F_]+" ++
    "|[-+]?[1-9][0-9_]*(?::[0-5]?[0-9])+"),
  (.merge, "<<"),
  (.null, "~|null|Null|NULL"),
  (.moment, "[0-9][0-9][0-9][0-9]-[0-9][0-9]-[0-9][0-9]" ++
    "|[0-9][0-9][0-9][0-9]-[0-9][0-9]?-[0-9][0-9]?(?:[Tt]|[ \t]+)[0-9][0-9]?:[0-9][0-9]:[0-9][0-9]" ++
    "(?:\\.[0-9]*)?(?:[ \t]*(?:Z|[-+][0-9][0-9]?(?::[0-9][0-9])?))?"),
  (.default, "="),
  (.other (stem ++ "yaml"), "!|&|\\*")]

/-- The pattern of a text that is spelled in one way from its beginning to its end, a line break
at the end not counted. No spelling tells a code point by its name, so it does not matter which
database knows the names. -/
def whole (spelling : String) : Option Pattern :=
  (Pattern.compile ("^(?:" ++ spelling ++ ")$")).toOption

def patterns : List (Kind × Pattern) :=
  spellings.filterMap fun (k, s) => (whole s).map (k, ·)

/-- The kind of a plain scalar; an empty one is null. -/
def ofPlain (t : Text) : Kind :=
  if t.isEmpty then .null
  else ((patterns.find? fun p => p.2.node.matchesAt t.toArray 0).map (·.1)).getD .text

end Kind

end Settle.Yaml

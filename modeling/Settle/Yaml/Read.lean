import Settle.Yaml.Node
import Settle.Yaml.Scalar

/-!
# Documents from nodes

What the nodes of a document stand for is made from the outside in: a collection is empty at first,
and filled only once all collections further out are, so it can be put into itself. Of several
faults the one that is met first on this way counts. The entries of a mapping under a merge key come
before its own, which replace them.
-/

namespace Settle.Yaml

namespace Node

def isMapping : Node → Bool
  | .mapping .. => true
  | _           => false

/-- The entries of a mapping; other nodes have none. -/
def entries : Node → List (Ref × Ref)
  | .mapping _ es => es
  | _             => []

/-- The node with another kind. -/
def withKind (k : Kind) : Node → Node
  | .scalar _ t    => .scalar k t
  | .sequence _ is => .sequence k is
  | .mapping _ es  => .mapping k es

/-- The node with other entries, if it is a mapping. -/
def withEntries (es : List (Ref × Ref)) : Node → Node
  | .mapping k _ => .mapping k es
  | n            => n

end Node

/-- What a node stands for. A collection is known by the nodes that it holds; keys are scalars. -/
inductive Part where
  | scalar (d : Document)
  | list (items : List Ref)
  | pairs (items : List (Ref × Ref))
  | set (keys : List Document)
  | map (entries : List (Document × Ref))

/-- An empty collection of a kind; kinds of scalars have none. -/
def Part.empty? : Kind → Option Part
  | .sequence            => some (.list [])
  | .pairs | .orderedMap => some (.pairs [])
  | .set                 => some (.set [])
  | .mapping             => some (.map [])
  | _                    => none

/-! ### Making parts -/

/-- The nodes, and what is known of them so far. -/
structure Maker where
  nodes   : Array Node
  parts   : Array (Option Part)
  /-- Collections that are still to be filled. -/
  waiting : List Ref

abbrev Making := StateT Maker (Except Failure)

namespace Making

def fail {α : Type} (context : Text) : Making α := fun _ => .error (.malformed context)

def node (i : Ref) : Making Node := do return (← get).nodes.getD i .empty

def setNode (i : Ref) (n : Node) : Making Unit :=
  modify fun s => { s with nodes := s.nodes.setIfInBounds i n }

def part? (i : Ref) : Making (Option Part) := do return (← get).parts.getD i none

def setPart (i : Ref) (p : Part) : Making Unit :=
  modify fun s => { s with parts := s.parts.setIfInBounds i (some p) }

/-! ### Scalars -/

/-- The first entry of a kind. -/
def entryOf? (k : Kind) : List (Ref × Ref) → Making (Option (Ref × Ref))
  | []      => return none
  | e :: es => do if (← node e.1).kind = k then return some e else entryOf? k es

/-- The text of a scalar, or of the default value of a mapping. There is no end to mappings that are
the default values of each other. -/
def text : Nat → Node → Making Text
  | _,        .scalar _ t   => return t
  | _,        .sequence ..  => fail "expected a scalar node, but found sequence"
  | 0,        .mapping ..   =>
    fun _ => .error (.external "RecursionError" "maximum recursion depth exceeded")
  | fuel + 1, .mapping _ es => do
    match ← entryOf? .default es with
    | some e => text fuel (← node e.2)
    | none   => fail "expected a scalar node, but found mapping"

/-- The value of a node of a kind of scalars. -/
def scalar (n : Node) : Making Document := do
  match Scalar.value? n.kind, n with
  | none,      _           =>
    fail ("could not determine a constructor for the tag " ++ n.kind.tag.quoted)
  | some read, .scalar _ t => read t
  | some read, n           =>
    let t ← text (← get).nodes.size n
    -- a moment is read off the node itself
    if n.kind = .moment then throw .wrongType
    read t

/-! ### Nodes -/

/-- Makes what a node stands for, unless it has been made; a collection is to be filled later. -/
def make (i : Ref) : Making Unit := do
  if (← part? i).isSome then return
  let n ← node i
  match Part.empty? n.kind with
  | some p =>
    setPart i p
    modify fun s => { s with waiting := s.waiting ++ [i] }
  | none => setPart i (.scalar (← scalar n))

/-- A key, which is no collection. -/
def key (i : Ref) : Making Document := do
  make i
  match ← part? i with
  | some (.scalar d) => return d
  | _ => fail "while constructing a mapping"

/-! ### Merging -/

/-- Takes the first entry under a merge key out of some. -/
def takeMerge? : List (Ref × Ref) → Making (Option (Ref × List (Ref × Ref)))
  | []      => return none
  | e :: es => do
    if (← node e.1).kind = .merge then return some (e.2, es)
    else return (← takeMerge? es).map fun (v, rest) => (v, e :: rest)

/-- The entries of a mapping, once those that are merged into it are among them. -/
def mappingEntries (flatten : Ref → Making Unit) (i : Ref) : Making (List (Ref × Ref)) := do
  if !(← node i).isMapping then fail "while constructing a mapping"
  flatten i
  return (← node i).entries

/-- The entries of a mapping or of several, the first of which counts most. -/
def mergedEntries (flatten : Ref → Making Unit) (i : Ref) : Making (List (Ref × Ref)) := do
  match ← node i with
  | .sequence _ is => return (← is.mapM (mappingEntries flatten)).reverse.flatten
  | _              => mappingEntries flatten i

/-- Puts the entries under merge keys in front of the other entries of a mapping. A key for a
default value is a text from now on. Every merge key is taken out before what is under it is looked
at, so there is an end to mappings that are merged into themselves. -/
def flatten : Nat → Ref → Making Unit
  | 0,        _ => fail []
  | fuel + 1, i => do
    let n ← node i
    match ← takeMerge? n.entries with
    | some (v, rest) =>
      setNode i (n.withEntries rest)
      let merged ← mergedEntries (flatten fuel) v
      flatten fuel i
      let n ← node i
      setNode i (n.withEntries (merged ++ n.entries))
    | none =>
      n.entries.forM fun e => do
        let k ← node e.1
        if k.kind = .default then setNode e.1 (k.withKind .text)

/-! ### Collections -/

/-- The keys of a mapping with their values. -/
def entries (merges : Nat) (i : Ref) : Making (List (Document × Ref)) := do
  flatten merges i
  (← node i).entries.foldlM (fun es e => do
    let k ← key e.1
    make e.2
    return Document.insert k e.2 es) []

/-- The only entry of a mapping. -/
def pair (context : Text) (i : Ref) : Making (Ref × Ref) := do
  match ← node i with
  | .mapping _ [(k, v)] =>
    make k
    make v
    return (k, v)
  | _ => fail context

/-- What is said of a node that has not the form of its kind. -/
def formless (n : Node) : Text :=
  match n.kind with
  | .sequence   => "expected a sequence node, but found " ++ n.name
  | .pairs      => "while constructing pairs"
  | .orderedMap => "while constructing an ordered map"
  | _           => "expected a mapping node, but found " ++ n.name

/-- Fills the collection that a node stands for. -/
def fill (merges : Nat) (i : Ref) : Making Unit := do
  let n ← node i
  match n.kind, n with
  | .sequence, .sequence _ is =>
    is.forM make
    setPart i (.list is)
  | .pairs, .sequence _ is | .orderedMap, .sequence _ is =>
    setPart i (.pairs (← is.mapM (pair (formless n))))
  | .mapping, .mapping .. => setPart i (.map (← entries merges i))
  | .set, .mapping .. => setPart i (.set ((← entries merges i).map (·.1)))
  | _, _ => fail (formless n)

/-- Fills the collections that are waiting, and those that come to wait meanwhile. -/
def fillWaiting (merges : Nat) : Nat → Making Unit
  | 0        => return
  | fuel + 1 => do
    match (← get).waiting with
    | []      => return
    | i :: is =>
      modify fun s => { s with waiting := is }
      fill merges i
      fillWaiting merges fuel

end Making

/-! ### Documents -/

/-- The document that a node stands for, inside the collections `around` it, of which the innermost
comes first; some are not those of a node. -/
def tie (parts : Array (Option Part)) : Nat → List (Option Ref) → Ref → Document
  | 0,        _,      _ => .null
  | fuel + 1, around, i =>
    match around.idxOf? (some i) with
    | some n => .again n
    | none   =>
      let inner := tie parts fuel (some i :: around)
      match parts.getD i none with
      | none               => .null
      | some (.scalar d)   => d
      | some (.list items) => .list (items.map inner)
      | some (.pairs items) =>
        let inPair := tie parts fuel (none :: some i :: around)
        .list (items.map fun (k, v) => .tuple [inPair k, inPair v])
      | some (.set keys)    => .set keys
      | some (.map entries) => .map (entries.map fun (k, v) => (k, inner v))

/-- The document that nodes describe. No node is filled more than once, and no merge key is taken
out more than once. -/
def Graph.toDocument (g : Graph) : Except Failure Document := do
  let merges := g.nodes.foldl (fun n x => n + x.entries.length) 1
  let making : Making Unit := do
    Making.make g.root
    Making.fillWaiting merges g.nodes.size
  let (_, s) ← making.run ⟨g.nodes, Array.replicate g.nodes.size none, []⟩
  return tie s.parts (g.nodes.size + 1) [] g.root

/-! ### Texts -/

/-- Every line ends in a line feed. -/
def plainBreaks : Text → Text
  | []     => []
  | [c]    => [if c = '\r' then '\n' else c]
  | c :: d :: t =>
    if c = '\r' then if d = '\n' then '\n' :: plainBreaks t else '\n' :: plainBreaks (d :: t)
    else c :: plainBreaks (d :: t)

/-- A character that may stand in a document. -/
def isAllowed (c : CodePoint) : Bool :=
  isBlank c || c = '\n' || c = '\r' || c.between ' ' '~' || c.val == 0x85 ||
    0xa0 ≤ c.val && c.val ≤ 0xd7ff || 0xe000 ≤ c.val && c.val ≤ 0xfffd || 0x10000 ≤ c.val

end Yaml

/-- The document that a text describes; nothing at all is null. -/
def Document.ofYaml (t : Text) : Except Failure Document := do
  let t := Yaml.plainBreaks t
  if let some c := t.find? fun c => !Yaml.isAllowed c then
    Yaml.fault ("unacceptable character #x" ++ Text.hex 4 c.val ++
      ": special characters are not allowed")
  match ← Yaml.Graph.ofText t with
  | none   => return .null
  | some g => g.toDocument

end Settle

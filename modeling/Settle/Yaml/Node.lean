import Settle.Yaml.Kind
import Settle.Yaml.Layout

/-!
# Nodes

The nodes that the tokens of a document describe: scalars, sequences and mappings, each of a kind.
An alias stands for the node of its anchor, also inside that node. So nodes are numbered, and those
that a node holds are told by their numbers.
-/

namespace Settle.Yaml

/-- The number of a node. -/
abbrev Ref := Nat

inductive Node where
  | scalar (kind : Kind) (text : Text)
  | sequence (kind : Kind) (items : List Ref)
  | mapping (kind : Kind) (entries : List (Ref × Ref))

/-- All nodes of a document, and the number of the outermost one. -/
structure Graph where
  nodes : Array Node
  root  : Ref

namespace Node

def kind : Node → Kind
  | .scalar k _ | .sequence k _ | .mapping k _ => k

/-- What a node is called in messages. -/
def name : Node → Text
  | .scalar ..   => "scalar"
  | .sequence .. => "sequence"
  | .mapping ..  => "mapping"

/-- What stands where nothing is written. -/
def empty : Node := .scalar .null []

/-! ### Reading tokens -/

/-- What is left to read, and what has been declared so far. -/
structure Reader where
  tokens   : List Token
  /-- What is wrong behind the tokens. -/
  failure? : Option Failure
  /-- What handles of tags stand for. -/
  handles  : List (Text × Text)
  nodes    : Array Node
  anchors  : List (Text × Ref)

abbrev Reading := StateT Reader (Except Failure)

namespace Reading

def fail {α : Type} (context : Text) : Reading α := fun _ => .error (.malformed context)

/-- The next token. -/
def peek : Reading Token := fun r =>
  match r.tokens with
  | t :: _ => .ok (t, r)
  | []     => .error (r.failure?.getD (.malformed []))

/-- Passes over the next token. -/
def skip : Reading Unit := modify fun r => { r with tokens := r.tokens.tail }

/-- The next token is one of some. -/
def sees (ts : List Token) : Reading Bool := do return ts.contains (← peek)

/-- Passes over the next token if it is this one. -/
def skipIf (t : Token) : Reading Bool := do
  if ← sees [t] then
    skip
    return true
  else return false

/-! ### Anchors and tags -/

/-- An anchor and a tag, in either order. -/
def properties : Reading (Option Text × Option Tag) := do
  match ← peek with
  | .anchor a =>
    skip
    match ← peek with
    | .tag t =>
      skip
      return (some a, some t)
    | _ => return (some a, none)
  | .tag t =>
    skip
    match ← peek with
    | .anchor a =>
      skip
      return (some a, some t)
    | _ => return (none, some t)
  | _ => return (none, none)

/-- A tag written in full. -/
def expand (t : Tag) : Reading Text := do
  match t.handle? with
  | none   => return t.suffix
  | some h =>
    match (← get).handles.lookup h with
    | some stem => return stem ++ t.suffix
    | none      => fail "while parsing a node"

/-- The node of an anchor. -/
def find (anchor : Text) : Reading Ref := do
  match (← get).anchors.lookup anchor with
  | some i => return i
  | none   => fail ("found undefined alias " ++ anchor.quoted)

/-- A new node. -/
def add (n : Node) : Reading Ref := fun r =>
  .ok (r.nodes.size, { r with nodes := r.nodes.push n })

/-- Replaces a node. -/
def put (i : Ref) (n : Node) : Reading Unit :=
  modify fun r => { r with nodes := r.nodes.setIfInBounds i n }

/-- A new node with its anchor, which must be new. -/
def declare (anchor? : Option Text) (n : Node) : Reading Ref := do
  match anchor? with
  | none   => add n
  | some a =>
    if ((← get).anchors.lookup a).isSome then
      fail ("found duplicate anchor " ++ a.quoted ++ "; first occurrence")
    let i ← add n
    modify fun r => { r with anchors := (a, i) :: r.anchors }
    return i

/-- The kind that a tag gives to a node; without one, and with a single exclamation mark, the node
has the kind of its form. -/
def kindOf (tag? : Option Text) (usual : Kind) : Kind :=
  match tag? with
  | none   => usual
  | some t => if t = "!" then usual else .ofTag t

/-! ### Collections

A node is read from the readers of what it holds. Only a `block` node may be a collection that is
told by its indentation, and only a `loose` one a sequence that is not indented. -/

/-- Reads nodes that are `block` and `loose` or not. -/
abbrev NodeReader := (block loose : Bool) → Reading Ref

/-- A node, or an empty one if the next token ends it. -/
def nodeUnless (ends : List Token) (node : Reading Ref) : Reading Ref := do
  if ← sees ends then add empty else node

/-- The value of an entry, if it has one. -/
def valueUnless (ends : List Token) (node : Reading Ref) : Reading Ref := do
  if ← skipIf .value then nodeUnless ends node else add empty

/-- Items that are indented. -/
def blockItems (node : NodeReader) : Nat → Reading (List Ref)
  | 0        => fail []
  | fuel + 1 => do
    if ← skipIf .blockEntry then
      let i ← nodeUnless [.blockEntry, .blockEnd] (node true false)
      return i :: (← blockItems node fuel)
    else if ← skipIf .blockEnd then return []
    else fail "while parsing a block collection"

/-- Items that are not indented. -/
def looseItems (node : NodeReader) : Nat → Reading (List Ref)
  | 0        => fail []
  | fuel + 1 => do
    if ← skipIf .blockEntry then
      let i ← nodeUnless [.blockEntry, .key, .value, .blockEnd] (node true false)
      return i :: (← looseItems node fuel)
    else return []

/-- Entries that are indented. -/
def blockEntries (node : NodeReader) : Nat → Reading (List (Ref × Ref))
  | 0        => fail []
  | fuel + 1 => do
    let ends : List Token := [.key, .value, .blockEnd]
    if ← skipIf .key then
      let k ← nodeUnless ends (node true true)
      let v ← valueUnless ends (node true true)
      return (k, v) :: (← blockEntries node fuel)
    else if ← skipIf .blockEnd then return []
    else fail "while parsing a block mapping"

/-- An entry between brackets or braces, behind the token that marks its key. -/
def flowPair (node : NodeReader) (close : Token) : Reading (Ref × Ref) := do
  let k ← nodeUnless [.value, .flowEntry, close] (node false false)
  return (k, ← valueUnless [.flowEntry, close] (node false false))

/-- Items between brackets; a single entry may stand for a mapping. -/
def flowItems (node : NodeReader) (first : Bool) : Nat → Reading (List Ref)
  | 0        => fail []
  | fuel + 1 => do
    if ← skipIf .flowSequenceEnd then return []
    if !first then
      if !(← skipIf .flowEntry) then fail "while parsing a flow sequence"
    if ← skipIf .flowSequenceEnd then return []
    let i ←
      if ← skipIf .key then do add (.mapping .mapping [← flowPair node .flowSequenceEnd])
      else node false false
    return i :: (← flowItems node false fuel)

/-- Entries between braces; one without a mark for its key has no value. -/
def flowEntries (node : NodeReader) (first : Bool) : Nat → Reading (List (Ref × Ref))
  | 0        => fail []
  | fuel + 1 => do
    if ← skipIf .flowMappingEnd then return []
    if !first then
      if !(← skipIf .flowEntry) then fail "while parsing a flow mapping"
    if ← skipIf .flowMappingEnd then return []
    let e ←
      if ← skipIf .key then flowPair node .flowMappingEnd
      else do pure (← node false false, ← add empty)
    return e :: (← flowEntries node false fuel)

/-! ### Nodes -/

/-- A node behind its anchor and tag. -/
def content (node : NodeReader) (fuel : Nat) (block loose : Bool) (anchor? tag? : Option Text) :
    Reading Ref := do
  -- the anchor of a collection is known before what it holds is read
  let sequence (items : Reading (List Ref)) : Reading Ref := do
    let k := kindOf tag? .sequence
    let i ← declare anchor? (.sequence k [])
    put i (.sequence k (← items))
    return i
  let mapping (entries : Reading (List (Ref × Ref))) : Reading Ref := do
    let k := kindOf tag? .mapping
    let i ← declare anchor? (.mapping k [])
    put i (.mapping k (← entries))
    return i
  let scalar (usual : Kind) (text : Text) : Reading Ref :=
    declare anchor? (.scalar (kindOf tag? usual) text)
  match ← peek, block, loose with
  | .blockEntry, _, true => sequence (looseItems node fuel)
  | .scalar t plain, _, _ =>
    skip
    scalar (if plain || tag?.isSome then .ofPlain t else .text) t
  | .flowSequenceStart, _, _ => sequence (do skip; flowItems node true fuel)
  | .flowMappingStart, _, _ => mapping (do skip; flowEntries node true fuel)
  | .sequenceStart, true, _ => sequence (do skip; blockItems node fuel)
  | .mappingStart, true, _ => mapping (do skip; blockEntries node fuel)
  | _, _, _ =>
    if anchor?.isSome || tag?.isSome then scalar .null []
    else fail (if block then "while parsing a block node" else "while parsing a flow node")

def node : Nat → NodeReader
  | 0,        _,     _     => fail []
  | fuel + 1, block, loose => do
    match ← peek with
    | .alias a =>
      skip
      find a
    | _ =>
      let (anchor?, tag?) ← properties
      content (node fuel) fuel block loose anchor? (← tag?.mapM expand)

/-! ### Documents -/

/-- What handles stand for in any document. -/
def defaultHandles : List (Text × Text) := [("!", "!"), ("!!", Kind.stem)]

/-- The directives in front of a document: at most one version, and no handle twice. -/
def directives (version : Bool) (handles : List (Text × Text)) : Nat → Reading Unit
  | 0        => fail []
  | fuel + 1 => do
    match ← peek with
    | .directive (.version major _) =>
      if version then fail "found duplicate YAML directive"
      if major ≠ 1 then fail "found incompatible YAML document (version 1.* is required)"
      skip
      directives true handles fuel
    | .directive (.handle h stem) =>
      if (handles.lookup h).isSome then fail ("duplicate tag handle " ++ h.quoted)
      skip
      directives version ((h, stem) :: handles) fuel
    | .directive .other =>
      skip
      directives version handles fuel
    | _ => modify fun r => { r with handles := handles ++ defaultHandles }

/-- Passes over the ends of documents. -/
def skipEnds : Nat → Reading Unit
  | 0        => return
  | fuel + 1 => do if ← skipIf .documentEnd then skipEnds fuel

/-- The directives and the mark at the beginning of a document. -/
def opening (fuel : Nat) : Reading Unit := do
  directives false [] fuel
  match ← peek with
  | .documentStart => skip
  | t => fail ("expected '<document start>', but found " ++ t.name.quoted)

/-- The only document; none if nothing is written. -/
def document (fuel : Nat) : Reading (Option Ref) := do
  let i ← match ← peek with
    | .streamEnd => return none
    | .directive _ | .documentStart => do
      opening fuel
      match ← peek with
      | .directive _ | .documentStart | .documentEnd | .streamEnd => add empty
      | _ => node fuel true false
    | _ => node fuel true false
  skipEnds fuel
  if !(← sees [.streamEnd]) then
    opening fuel
    fail "expected a single document in the stream"
  return some i

end Reading

end Node

/-- The nodes that a text describes, if it describes any. -/
def Graph.ofText (t : Text) : Except Failure (Option Graph) := do
  let (tokens, failure?) := Token.read t
  let (root?, r) ← (Node.Reading.document (3 * tokens.length + 8)).run
    ⟨tokens, failure?, Node.Reading.defaultHandles, #[], []⟩
  return root?.map fun i => ⟨r.nodes, i⟩

end Settle.Yaml

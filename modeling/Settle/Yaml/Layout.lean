import Settle.Yaml.Block
import Settle.Yaml.Plain
import Settle.Yaml.Quoted
import Settle.Yaml.Token

/-!
# From text to tokens

Blocks are opened and closed by the column at which a token stands. A scalar, a collection between
brackets or an alias may turn out to be the key of an entry when a colon follows on the same line;
tokens are held back as long as that is open, since the key and perhaps a new block begin before
them.
-/

namespace Settle.Yaml

/-- Where a key may have begun. -/
structure Candidate where
  /-- The number of its first token. -/
  number   : Nat
  /-- It has to turn out to be a key. -/
  required : Bool
  place    : Cursor

/-- The state of reading tokens. -/
structure Layout where
  place   : Cursor
  /-- How many brackets and braces are open. -/
  flow    : Int
  /-- The column of the innermost block, and those of the blocks around it. -/
  indent  : Int
  outer   : List Int
  /-- A key may begin here. -/
  open'   : Bool
  /-- Where keys may have begun, by the brackets and braces that were open. -/
  keys    : List (Int × Candidate)
  /-- The tokens that are held back, and how many have been handed on before them. -/
  held    : List Token
  given   : Nat
  done    : Bool

namespace Layout

def start (t : Text) : Layout :=
  ⟨.start t, 0, -1, [], true, [], [], 0, false⟩

def inFlow (l : Layout) : Bool := l.flow != 0

def push (l : Layout) (t : Token) : Layout := { l with held := l.held ++ [t] }

def column (l : Layout) : Int := l.place.column

/-! ### Candidates for keys -/

def context : Text := "while scanning a simple key"

/-- A candidate ends with its line, and after 1024 characters. -/
def isStale (l : Layout) (k : Candidate) : Bool :=
  k.place.line != l.place.line || decide (k.place.index + 1024 < l.place.index)

/-- Without the candidates that have ended. -/
def dropStale (l : Layout) : Except Failure Layout :=
  if l.keys.any fun k => l.isStale k.2 && k.2.required then fault context
  else .ok { l with keys := l.keys.filter fun k => !l.isStale k.2 }

/-- Without the candidate inside the present brackets. -/
def dropKey (l : Layout) : Except Failure Layout :=
  match l.keys.lookup l.flow with
  | some k =>
    if k.required then fault context
    else .ok { l with keys := l.keys.filter fun e => e.1 != l.flow }
  | none => .ok l

/-- A key may begin here. -/
def offerKey (l : Layout) : Except Failure Layout :=
  if !l.open' then .ok l
  else do
    let required := !l.inFlow && l.indent == l.column
    let l ← l.dropKey
    let k : Candidate := ⟨l.given + l.held.length, required, l.place⟩
    return { l with keys := (l.flow, k) :: l.keys }

/-! ### Blocks -/

/-- Closes the blocks that are indented more than a column, counting them. -/
def closing (column indent : Int) : List Int → Nat × Int × List Int
  | []      => (0, indent, [])
  | i :: is =>
    if column < indent then
      let (n, rest) := closing column i is
      (n + 1, rest)
    else (0, indent, i :: is)

/-- Closes the blocks that are indented more than a column. -/
def unwind (l : Layout) (column : Int) : Layout :=
  if l.inFlow then l
  else
    let (n, indent, outer) := closing column l.indent l.outer
    { l with indent := indent, outer := outer, held := l.held ++ List.replicate n .blockEnd }

/-- Opens a block at a column if it is indented more than the present one. -/
def opensAt (l : Layout) (column : Int) : Option Layout :=
  if l.indent < column then some { l with indent := column, outer := l.indent :: l.outer }
  else none

/-- Opens a block here if it is indented more, with a token that says so. -/
def openBlock (l : Layout) (t : Token) : Layout :=
  match l.opensAt l.column with
  | some l => l.push t
  | none   => l

/-! ### Tokens -/

/-- Behind blanks, comments and breaks; a break outside of brackets lets a key begin. -/
def toNext : Nat → Layout → Layout
  | 0,        l => l
  | fuel + 1, l =>
    let c := l.place.skipWhile isSpace
    let c := if c.seesChar '#' then c.skipLine else c
    if c.sees isBreak then
      toNext fuel { l with place := c.takeBreak.2, open' := l.open' || !l.inFlow }
    else { l with place := c }

/-- At the beginning, a mark of byte order is passed over. -/
def skipMark (l : Layout) : Layout :=
  if l.place.index == 0 && l.place.sees (·.val == 0xfeff) then { l with place := l.place.next }
  else l

/-- An indicator of some characters. -/
def indicator (l : Layout) (width : Nat) (t : Token) : Layout :=
  { l.push t with place := l.place.skip width }

/-- Ends all blocks. -/
def leave (l : Layout) : Except Failure Layout := do
  let l ← (l.unwind (-1)).dropKey
  return { l with open' := false }

def streamEnd (l : Layout) : Except Failure Layout := do
  let l ← l.leave
  return { l.push .streamEnd with keys := [], done := true }

def directive (l : Layout) : Except Failure Layout := do
  let l ← l.leave
  let (d, c) ← Property.directive l.place
  return { l.push (.directive d) with place := c }

def documentMark (l : Layout) (t : Token) : Except Failure Layout := do
  return (← l.leave).indicator 3 t

def flowStart (l : Layout) (t : Token) : Except Failure Layout := do
  let l ← l.offerKey
  return { l.indicator 1 t with flow := l.flow + 1, open' := true }

def flowEnd (l : Layout) (t : Token) : Except Failure Layout := do
  let l ← l.dropKey
  return { l.indicator 1 t with flow := l.flow - 1, open' := false }

def flowEntry (l : Layout) : Except Failure Layout := do
  let l ← l.dropKey
  return { l.indicator 1 .flowEntry with open' := true }

def blockEntry (l : Layout) : Except Failure Layout := do
  if !l.inFlow && !l.open' then fault "sequence entries are not allowed here"
  let l := if l.inFlow then l else l.openBlock .sequenceStart
  let l ← l.dropKey
  return { l.indicator 1 .blockEntry with open' := true }

def key (l : Layout) : Except Failure Layout := do
  if !l.inFlow && !l.open' then fault "mapping keys are not allowed here"
  let l := if l.inFlow then l else l.openBlock .mappingStart
  let l ← l.dropKey
  return { l.indicator 1 .key with open' := !l.inFlow }

/-- With a token in front of the one of a number. -/
def insert (l : Layout) (number : Nat) (t : Token) : Layout :=
  let n := number - l.given
  { l with held := l.held.take n ++ t :: l.held.drop n }

/-- A colon behind a candidate makes it a key; otherwise it belongs to a key that has been marked
as one, or to none. -/
def value (l : Layout) : Except Failure Layout :=
  match l.keys.lookup l.flow with
  | some k =>
    let l := { l with keys := l.keys.filter fun e => e.1 != l.flow }
    let l := l.insert k.number .key
    let l := match if l.inFlow then none else l.opensAt k.place.column with
      | some l => l.insert k.number .mappingStart
      | none   => l
    .ok { l.indicator 1 .value with open' := false }
  | none => do
    if !l.inFlow && !l.open' then fault "mapping values are not allowed here"
    let l := if l.inFlow then l else l.openBlock .mappingStart
    let l ← { l with open' := !l.inFlow }.dropKey
    return l.indicator 1 .value

/-- An anchor or an alias. -/
def anchor (l : Layout) (what : Text) (make : Text → Token) : Except Failure Layout := do
  let l ← l.offerKey
  let (name, c) ← Property.anchor what l.place.next
  return { l.push (make name) with place := c, open' := false }

def tag (l : Layout) : Except Failure Layout := do
  let l ← l.offerKey
  let (t, c) ← Property.tag l.place
  return { l.push (.tag t) with place := c, open' := false }

def blockScalar (l : Layout) : Except Failure Layout := do
  let l ← l.dropKey
  let (t, c) ← Block.read l.indent l.place
  return { l.push (.scalar t false) with place := c, open' := true }

def quotedScalar (l : Layout) : Except Failure Layout := do
  let l ← l.offerKey
  let (t, c) ← Quoted.read l.place
  return { l.push (.scalar t false) with place := c, open' := false }

def plainScalar (l : Layout) : Except Failure Layout := do
  let l ← l.offerKey
  let (t, c, broken) := Plain.read l.inFlow l.indent l.place
  return { l.push (.scalar t true) with place := c, open' := broken }

/-- A plain scalar can begin here. -/
def seesPlain (l : Layout) (d : CodePoint) : Bool :=
  !(isBlank d || isBreak d || isOf "-?:,[]\x7b\x7d#&*!|>'\"%@`" d) ||
    !l.place.endsAt 1 isBlank && (d = '-' || !l.inFlow && (d = '?' || d = ':'))

/-- The tokens that begin with a character. -/
def readAt (l : Layout) (d : CodePoint) : Except Failure Layout :=
  let starts (mark : Text) : Bool :=
    l.place.column == 0 && Text.startsWith l.place.rest mark && l.place.endsAt 3 isBlank
  let alone := l.place.endsAt 1 isBlank
  if d = '%' && l.place.column == 0 then l.directive
  else if starts "---" then l.documentMark .documentStart
  else if starts "..." then l.documentMark .documentEnd
  else if d = '[' then l.flowStart .flowSequenceStart
  else if d = '\x7b' then l.flowStart .flowMappingStart
  else if d = ']' then l.flowEnd .flowSequenceEnd
  else if d = '\x7d' then l.flowEnd .flowMappingEnd
  else if d = ',' then l.flowEntry
  else if d = '-' && alone then l.blockEntry
  else if d = '?' && (l.inFlow || alone) then l.key
  else if d = ':' && (l.inFlow || alone) then l.value
  else if d = '*' then l.anchor "alias" .alias
  else if d = '&' then l.anchor "anchor" .anchor
  else if d = '!' then l.tag
  else if (d = '|' || d = '>') && !l.inFlow then l.blockScalar
  else if d = '\'' || d = '"' then l.quotedScalar
  else if l.seesPlain d then l.plainScalar
  else fault "while scanning for the next token"

/-- Reads on up to the next token. -/
def read (l : Layout) : Except Failure Layout := do
  let l ← (toNext (l.place.rest.length + 1) l.skipMark).dropStale
  let l := l.unwind l.column
  match l.place.rest with
  | []     => l.streamEnd
  | d :: _ => l.readAt d

/-- The first token that is held back cannot be handed on before more has been read. -/
def needsMore (l : Layout) : Except Failure (Bool × Layout) :=
  if l.done then .ok (false, l)
  else if l.held.isEmpty then .ok (true, l)
  else do
    let l ← l.dropStale
    return (l.keys.any (·.2.number == l.given), l)

/-- Reads until the next token can be handed on. -/
def fill : Nat → Layout → Except Failure Layout
  | 0,        l => .ok l
  | fuel + 1, l => do
    let (more, l) ← l.needsMore
    if more then fill fuel (← l.read) else return l

/-- All tokens from here on, up to the first failure. -/
def tokens : Nat → Layout → List Token × Option Failure
  | 0,        _ => ([], none)
  | fuel + 1, l =>
    match fill (l.place.rest.length + 2) l with
    | .error f => ([], some f)
    | .ok l    =>
      match l.held with
      | []      => ([], none)
      | t :: ts =>
        let (more, f) := tokens fuel { l with held := ts, given := l.given + 1 }
        (t :: more, f)

end Layout

/-- The tokens of a document, and the failure that ends them, if they end in one. -/
def Token.read (t : Text) : List Token × Option Failure :=
  Layout.tokens (4 * t.length + 8) (.start t)

end Settle.Yaml

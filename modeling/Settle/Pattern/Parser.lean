import Settle.Pattern.Escape
import Settle.Pattern.Search
import Settle.Text.Class.Identifier
import Settle.Text.Class.Letter

/-!
# Reading regular expressions

An expression is a row of alternatives, an alternative a row of items. Flags that an expression
sets for itself come first; those of a group hold inside it.

Every item takes at least one symbol and nests four readers at most, so a reader that is given
five steps for each symbol does not run out of them.
-/

namespace Settle.Pattern

/-- The flags in force: inside a group its own, else those the expression has set. -/
abbrev Scope := Option Flags

/-- Items differ in whether they can be repeated: places and repetitions cannot. -/
inductive ItemKind where
  | place
  | repeated
  | other
  deriving DecidableEq

/-- An item of a row and its kind. -/
abbrev Item := Node × ItemKind

namespace Reader

def flags (scope : Scope) : Reader Flags := do return scope.getD (← get).flags

/-! ### Sets -/

/-- The symbol as an entry of a set, and whether it is a single code point. -/
def setEntry [CharacterNames] (sym : Symbol) : Reader Entry :=
  match sym with
  | [_, c] => do
    match ← Escaped.inSet sym c with
    | .category k negated => return .category k negated
    | .point d            => return .point d
    | .anchor _           => return .point c
    | .backref ..         => return .point c
  | c :: _ => return .point c
  | []     => return .point '\\'

/-- The entries up to the closing bracket; `start` is the offset of the opening one. -/
def setEntries [CharacterNames] (start : Nat) : Nat → List Entry → Reader (List Entry)
  | 0,        seen => return seen
  | fuel + 1, seen => do
    match ← take? with
    | none => fail .unterminatedSet ((← offset) - start)
    | some this =>
      if this = "]" && !seen.isEmpty then return seen
      else
        let first ← setEntry this
        if ← accept '-' then
          match ← take? with
          | none => fail .unterminatedSet ((← offset) - start)
          | some that =>
            if that = "]" then return seen ++ [first, .point '-']
            else
              let second ← setEntry that
              let width := this.length + 1 + that.length
              match first, second with
              | .point lo, .point hi =>
                if hi < lo then fail (.badRange this that) width
                else setEntries start fuel (seen ++ [.range lo hi])
              | _, _ => fail (.badRange this that) width
        else setEntries start fuel (seen ++ [first])

/-- A set, after its opening bracket. -/
def charSet [CharacterNames] (mode : Mode) : Reader Node := do
  let start := (← offset) - 1
  let negated ← accept '^'
  let entries ← setEntries start ((← get).left.length + 1) []
  match entries.eraseDups with
  | [.point c] => return .point c negated mode
  | entries    => return .oneOf entries negated mode

/-! ### Repetitions -/

/-- The most repetitions that a bound can name. -/
def repeatLimit : Nat := 4294967295

/-- The bound that digits name. -/
def bound (ds : Text) : Except PatternError Nat :=
  if Decimal.digitLimit < ds.length then .error (.longNumber ds.length)
  else if repeatLimit ≤ Decimal.value ds then .error .hugeNumber
  else .ok (Decimal.value ds)

/-- The bounds between braces, after the opening one; none if there are no such bounds, and then
nothing is taken. -/
def bounds? : Reader (Option (Nat × Option Nat)) := do
  let here ← get
  if (← peek?) = some "\x7d" then return none
  let lo ← takeAll CodePoint.isDigit
  let hi ← if ← accept ',' then takeAll CodePoint.isDigit else pure lo
  if ← accept '\x7d' then
    let least ← if lo.isEmpty then pure 0 else bound lo
    if hi.isEmpty then return some (least, none)
    let most ← bound hi
    if most < least then fail .repeatBounds ((← offset) - here.offset)
    return some (least, some most)
  else
    set here
    return none

/-- What the sign behind a sign of repetition asks for, if there is one. -/
def greed : Reader Greed := do
  if ← accept '?' then return .lazy
  -- only without a question mark is a plus looked for: behind one it is a repetition of its own
  if ← accept '+' then return .possessive
  return .greedy

/-- Puts a repetition in the place of the last item of a row; `start` is the offset behind the
sign of repetition. -/
def repeatLast (start : Nat) (least : Nat) (most? : Option Nat) (row : List Item) :
    Reader (List Item) := do
  match row with
  | [] => fail .nothingToRepeat ((← offset) - start + 1)
  | (_, .place) :: _ => fail .nothingToRepeat ((← offset) - start + 1)
  | (_, .repeated) :: _ => fail .multipleRepeat ((← offset) - start + 1)
  | (node, .other) :: rest =>
    return (.loop (← greed) least most? node, .repeated) :: rest

/-! ### Groups -/

/-- The symbols of a comment, up to its parenthesis. -/
def comment (start : Nat) : Nat → Reader Unit
  | 0        => return ()
  | fuel + 1 => do
    match ← peek? with
    | none => fail .unterminatedComment ((← offset) - start)
    | some _ => if (← take?) = some ")" then return () else comment start fuel

/-- The symbols of a line, its end included. -/
def skipLine : Nat → Reader Unit
  | 0        => return ()
  | fuel + 1 => do
    match ← take? with
    | none   => return ()
    | some c => if c = "\n" then return () else skipLine fuel

/-- A symbol that is one letter. -/
def isLetterSymbol (s : Symbol) : Bool := match s with
  | [c] => c.isAnyLetter
  | _   => false

/-- The flag that a symbol names, where `unknown` or `missing` says what else it is. -/
def flag (missing : Fault) (sym : Symbol) : Reader (Option Flags) := do
  let other : Fault := if isLetterSymbol sym then .unknownFlag else missing
  match sym with
  | [c] =>
    if c = 'L' then return none
    else match Flags.ofLetter? c with
      | some f => return some f
      | none   => fail other sym.length
  | _ => fail other sym.length

/-- Flags to add, beginning with `sym`, and the symbol behind them. -/
def addedFlags : Nat → Flags → Symbol → Reader (Flags × Symbol)
  | 0,        add, sym => return (add, sym)
  | fuel + 1, add, sym => do
    match ← flag .flagsEnd sym with
    | none => fail .localeFlag 0
    | some f =>
      let add := add.union f
      if f.isType && add.ascii && add.unicode then fail .mixedTypeFlags 0
      match ← take? with
      | none => fail .flagsEnd 0
      | some sym =>
        if sym = ")" || sym = "-" || sym = ":" then return (add, sym)
        else addedFlags fuel add sym

/-- Flags to drop, beginning with `sym`, up to a colon. -/
def droppedFlags : Nat → Flags → Symbol → Reader Flags
  | 0,        drop, _ => return drop
  | fuel + 1, drop, sym => do
    match ← flag (if drop.isEmpty then .missingFlag else .missingColon) sym with
    | none => fail .negatedTypeFlags 0
    | some f =>
      if f.isType then fail .negatedTypeFlags 0
      let drop := drop.union f
      match ← take? with
      | none => fail .missingColon 0
      | some sym => if sym = ":" then return drop else droppedFlags fuel drop sym

/-- A symbol that begins the flags of a group. -/
def isFlag (s : Symbol) : Bool := match s with
  | [c] => c = '-' || c = 'L' || (Flags.ofLetter? c).isSome
  | _   => false

/-- The flags of a group, beginning with `sym`: those it adds and those it drops; none if they
are set for the whole expression. -/
def groupFlags (sym : Symbol) : Reader (Option (Flags × Flags)) := do
  let fuel := (← get).left.length + 1
  let (add, sym) ← if sym = "-" then pure ({}, sym) else addedFlags fuel {} sym
  if sym = ")" then
    modify fun s => { s with flags := s.flags.union add }
    return none
  if add.template then fail .globalFlagOn 1
  let drop ←
    if sym = "-" then
      match ← take? with
      | none     => fail .missingFlag 0
      | some sym => droppedFlags fuel {} sym
    else pure {}
  if drop.template then fail .globalFlagOff 1
  if !(add.common drop).isEmpty then fail .flagOnAndOff 1
  return some (add, drop)

/-- Opens a group, perhaps by name. -/
def openGroup (name? : Option Text) : Reader Nat := do
  let s ← get
  let index := s.groups
  match name? with
  | none => modify fun s => { s with widths := s.widths ++ [none] }
  | some n =>
    match s.names.lookup n with
    | some before => fail (.redefinedGroup n index before) (n.length + 1)
    | none =>
      modify fun s => { s with widths := s.widths ++ [none], names := (n, index) :: s.names }
  return index

/-- Closes a group, whose width is known then. -/
def closeGroup (index : Nat) (body : Node) : Reader Unit :=
  modify fun s => { s with widths := s.widths.set index (some body.width) }

/-- A name between a delimiter and its terminator. -/
def groupName (terminator : Char) : Reader Text := do
  let n ← name terminator "group name"
  if n.isIdentifier then return n else fail (.badGroupName n) (n.length + 1)

/-- A reference to a group by name, after its sign of equality. -/
def namedReference (mode : Mode) : Reader Node := do
  let n ← groupName ')'
  let s ← get
  match s.names.lookup n with
  | none => fail (.unknownGroupName n) (n.length + 1)
  | some index =>
    match s.closed? index with
    | none => fail .openGroup (n.length + 1)
    | some (least, most?) =>
      Escaped.checkLookBehind index
      return .backref index least most? mode

/-- The greatest number of groups. -/
def groupLimit : Nat := 1073741823

/-- The group that a condition is about. -/
def conditionGroup : Reader Nat := do
  let n ← name ')' "group name"
  let back := n.length + 1
  let index ←
    if n.isIdentifier then
      match (← get).names.lookup n with
      | none       => fail (.unknownGroupName n) back
      | some index => pure index
    else
      match Literal.integer n with
      | .error _ => fail (.badGroupName n) back
      | .ok i =>
        if i < 0 then fail (.badGroupName n) back
        else if i = 0 then fail .zeroGroup back
        else if groupLimit ≤ i.toNat then fail (.invalidGroup i.toNat) back
        else
          let here := (← offset) - back
          modify fun s =>
            if (s.conditions.lookup i.toNat).isSome then s
            else { s with conditions := s.conditions ++ [(i.toNat, here)] }
          pure i.toNat
  Escaped.checkLookBehind index
  return index

/-- The parenthesis that closes what was opened at `start`. -/
def close (start : Nat) : Reader Unit := do
  if ← accept ')' then return () else fail .unterminatedGroup ((← offset) - start)

/-- A place, by the flags in force. -/
def lineAnchor (f : Flags) (start : Bool) : Anchor :=
  if start then if f.multiLine then .lineStart else .firstLineStart
  else if f.multiLine then .lineEnd else .finalLineEnd

/-! ### Expressions -/

mutual

/-- Alternatives up to the end or a closing parenthesis. -/
def alternatives [CharacterNames] (fuel : Nat) (scope : Scope) : Reader Node := do
  match fuel with
  | 0 => return .empty
  | fuel + 1 => return .ofAlternatives (← branches fuel scope scope.isNone)

/-- The rows between vertical bars; `first` if flags may still be set for the whole. -/
def branches [CharacterNames] (fuel : Nat) (scope : Scope) (first : Bool) : Reader (List Node) := do
  match fuel with
  | 0 => return []
  | fuel + 1 =>
    let row ← sequence fuel scope first []
    if ← accept '|' then return row :: (← branches fuel scope false) else return [row]

/-- Items up to a vertical bar, a closing parenthesis or the end, behind the row of items read so
far, last item first. -/
def sequence [CharacterNames] (fuel : Nat) (scope : Scope) (first : Bool) (row : List Item) :
    Reader Node := do
  match fuel with
  | 0 => return .empty
  | fuel + 1 =>
    let f ← flags scope
    match ← peek? with
    | none => return .ofList (row.reverse.map Prod.fst)
    | some sym =>
      if sym = "|" || sym = ")" then return .ofList (row.reverse.map Prod.fst)
      let _ ← take?
      let push (node : Node) : Reader Node := sequence fuel scope first ((node, .other) :: row)
      let again (least : Nat) (most? : Option Nat) : Reader Node := do
        sequence fuel scope first (← repeatLast (← offset) least most? row)
      match sym with
      | [_, c] =>
        match ← Escaped.inPattern f.mode.ascii sym c with
        | .point d            => push (.point d false f.mode)
        | .category k negated => push (.oneOf [.category k negated] false f.mode)
        | .backref i width    => push (.backref i width.1 width.2 f.mode)
        | .anchor a           => sequence fuel scope first ((.anchor a, .place) :: row)
      | [c] =>
        if f.verbose && c.isAsciiBlank then sequence fuel scope first row
        else if f.verbose && c = '#' then
          skipLine ((← get).left.length + 1)
          sequence fuel scope first row
        else if c = '[' then push (← charSet f.mode)
        else if c = '*' then again 0 none
        else if c = '+' then again 1 none
        else if c = '?' then again 0 (some 1)
        else if c = '\x7b' then
          let start ← offset
          match ← bounds? with
          | none => push (.point c false f.mode)
          | some (least, most?) =>
            sequence fuel scope first (← repeatLast start least most? row)
        else if c = '.' then push (.any f.dotAll)
        else if c = '^' then
          sequence fuel scope first ((.anchor (lineAnchor f true), .place) :: row)
        else if c = '$' then
          sequence fuel scope first ((.anchor (lineAnchor f false), .place) :: row)
        else if c = '(' then
          match ← group fuel scope first row with
          | some node => push node
          | none      => sequence fuel scope first row
        else push (.point c false f.mode)
      | _ => sequence fuel scope first row

/-- What an opening parenthesis begins; none if it is no item. -/
def group [CharacterNames] (fuel : Nat) (scope : Scope) (first : Bool) (row : List Item) :
    Reader (Option Node) := do
  match fuel with
  | 0 => return none
  | fuel + 1 =>
    let f ← flags scope
    let start := (← offset) - 1
    let captured (name? : Option Text) : Reader (Option Node) := do
      let index ← openGroup name?
      let body ← alternatives fuel (some f)
      close start
      closeGroup index body
      return some (.group index body)
    let look (make : Bool → Node → Node) (negated : Bool) : Reader (Option Node) := do
      let body ← alternatives fuel (some f)
      return some (make negated body)
    if !(← accept '?') then captured none
    else
      match ← take? with
      | none => fail .unexpectedEnd 0
      | some sym =>
        if sym = "P" then
          if ← accept '<' then captured (some (← groupName '>'))
          else if ← accept '=' then return some (← namedReference f.mode)
          else
            match ← take? with
            | none   => fail .unexpectedEnd 0
            | some c => fail (.unknownExtension ("P" ++ c)) (c.length + 2)
        else if sym = ":" then
          let body ← alternatives fuel (some f)
          close start
          return some body
        else if sym = "#" then
          comment start ((← get).left.length + 1)
          return none
        else if sym = "=" || sym = "!" then
          let node ← look .ahead (sym = "!")
          close start
          return node
        else if sym = "<" then
          match ← take? with
          | none => fail .unexpectedEnd 0
          | some c =>
            if c = "=" || c = "!" then
              let outer := (← get).lookBehind?
              if outer.isNone then modify fun s => { s with lookBehind? := some s.groups }
              let node ← look .behind (c = "!")
              if outer.isNone then modify fun s => { s with lookBehind? := none }
              close start
              return node
            else fail (.unknownExtension ("<" ++ c)) (c.length + 2)
        else if sym = "(" then
          let index ← conditionGroup
          let yes ← sequence fuel (some f) false []
          let no ← if ← accept '|' then
              let no ← sequence fuel (some f) false []
              if (← peek?) = some "|" then fail .thirdBranch 0
              pure no
            else pure .empty
          close start
          return some (.whether index yes no)
        else if sym = ">" then
          let body ← alternatives fuel (some f)
          close start
          return some (.atomic body)
        else if isFlag sym then
          match ← groupFlags sym with
          | none =>
            if !first || !row.isEmpty then fail .lateFlags ((← offset) - start)
            return none
          | some (add, drop) =>
            let body ← alternatives fuel (some (f.inside add drop))
            close start
            return some (.flagged body)
        else fail (.unknownExtension sym) (sym.length + 1)

end

end Reader

/-- A condition has to be about a group that the expression has. -/
def checkConditions (s : Cursor) : Except PatternError Unit :=
  match s.conditions.find? fun c => s.groups ≤ c.1 with
  | some (i, n) => .error (.fault (.invalidGroup i) (some n))
  | none        => .ok ()

/-- The name of a repetition. -/
def Greed.operator : Greed → Text
  | .greedy     => "MAX_REPEAT"
  | .lazy       => "MIN_REPEAT"
  | .possessive => "POSSESSIVE_REPEAT"

/-- What can be looked at behind a place: as many code points as the body is wide, which has to
be one number. -/
def checkBehind (body : Node) : Except PatternError Unit :=
  if 4294967295 < body.width.1 then .error (.fault .tooFarBehind none)
  else if body.width.2 ≠ some body.width.1 then .error (.fault .unfixedWidth none)
  else .ok ()

/-- The first node, from the outside and the left, that cannot be searched for. -/
def Node.check (template : Bool) : Node → Except PatternError Unit
  | .seq a b | .alt a b | .whether _ a b => do a.check template; b.check template
  | .loop g _ _ b =>
    if template then .error (.fault (.templateLoop g.operator) none) else b.check template
  | .group _ b | .atomic b | .ahead _ b | .flagged b => b.check template
  | .behind _ b => do checkBehind b; b.check template
  | _ => .ok ()

/-- The tree of a regular expression. -/
def Node.parse [CharacterNames] (t : Text) : Except PatternError Node := do
  let symbols := symbolsFrom 0 t
  let start ← Reader.settle ({ left := symbols, size := t.length } : Cursor)
  let (node, s) ← (Reader.alternatives (5 * symbols.length + 5) none).run start
  if s.flags.ascii && s.flags.unicode then throw .incompatibleFlags
  if s.left ≠ [] then throw (.fault .unbalanced (some s.offset))
  checkConditions s
  node.check s.flags.template
  return node.searched s.flags.mode.ascii

end Settle.Pattern

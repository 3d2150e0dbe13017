import Settle.Number.Shortest
import Settle.Text.Quoted
import Settle.Value.Basic

/-!
# Documents

The data of a configuration file: values, and beside them what only such files can hold, as
dates, rows of bytes and sets. The keys of a map may be any data. A collection can hold itself,
at any depth: then it stands again where it is held, and what is in it is looked at as often as it
is asked for.
-/

namespace Settle

/-- A calendar date with an optional time of day. -/
structure Moment where
  year   : Nat
  month  : Nat
  day    : Nat
  /-- Hour, minute, second and microsecond. -/
  time?  : Option (Nat × Nat × Nat × Nat)
  /-- Minutes east of Greenwich. -/
  zone?  : Option Int
  deriving DecidableEq

inductive Document where
  | null
  | bool (b : Bool)
  | int (n : Int)
  | float (x : Binary64)
  | str (t : Text)
  | bytes (b : Text)
  | moment (m : Moment)
  | list (items : List Document)
  | tuple (items : List Document)
  | set (items : List Document)
  | map (entries : List (Document × Document))
  /-- A collection that this is in, so many collections further out than the innermost one. -/
  | again (out : Nat)
  deriving Inhabited

mutual

/-- A value as a document. -/
def Value.toDocument : Value → Document
  | .null    => .null
  | .bool b  => .bool b
  | .int n   => .int n
  | .float x => .float x
  | .str t   => .str t
  | .list vs => .list (Value.toDocuments vs)
  | .map es  => .map (Value.toDocumentEntries es)

def Value.toDocuments : List Value → List Document
  | []      => []
  | v :: vs => v.toDocument :: Value.toDocuments vs

def Value.toDocumentEntries : List (Text × Value) → List (Document × Document)
  | []           => []
  | (k, v) :: es => (.str k, v.toDocument) :: Value.toDocumentEntries es

end

namespace Document

def isNull : Document → Bool
  | .null => true
  | _     => false

/-- What is filed under a text. -/
def lookup (key : Text) : List (Document × Document) → Option Document
  | [] => none
  | (.str k, v) :: es => if k = key then some v else lookup key es
  | _ :: es => lookup key es

/-- Counts as nothing: null, false, zero, and whatever is empty. -/
def isBlank : Document → Bool
  | .null        => true
  | .bool b      => !b
  | .int n       => n == 0
  | .float x     => x.same 0
  | .str t       => t.isEmpty
  | .bytes b     => b.isEmpty
  | .moment _    => false
  | .list items | .tuple items | .set items => items.isEmpty
  | .map entries => entries.isEmpty
  -- what holds itself holds something
  | .again _     => false

/-! ### What a collection holds -/

mutual

/-- The document with `whole` where it stands again; `inside` collections further in. -/
def fill (whole : Document) (inside : Nat) : Document → Document
  | .again n   => if n = inside then whole else .again n
  | .list ds   => .list (fillAll whole (inside + 1) ds)
  | .tuple ds  => .tuple (fillAll whole (inside + 1) ds)
  | .set ds    => .set (fillAll whole (inside + 1) ds)
  | .map es    => .map (fillEntries whole (inside + 1) es)
  | d          => d

def fillAll (whole : Document) (inside : Nat) : List Document → List Document
  | []      => []
  | d :: ds => fill whole inside d :: fillAll whole inside ds

/-- Keys hold no collection again. -/
def fillEntries (whole : Document) (inside : Nat) :
    List (Document × Document) → List (Document × Document)
  | []           => []
  | (k, v) :: es => (k, fill whole inside v) :: fillEntries whole inside es

end

/-- The items of a list, a tuple or a set. -/
def items? (d : Document) : Option (List Document) :=
  match d with
  | .list ds | .tuple ds | .set ds => some (fillAll d 0 ds)
  | _ => none

/-- The entries of a map. -/
def entries? (d : Document) : Option (List (Document × Document)) :=
  match d with
  | .map es => some (fillEntries d 0 es)
  | _       => none

/-! ### Keys -/

mutual

/-- Whether a document can be the key of an entry. -/
def isKey : Document → Bool
  | .list _ | .set _ | .map _ | .again _ => false
  | .tuple ds => areKeys ds
  | _ => true

def areKeys : List Document → Bool
  | []      => true
  | d :: ds => isKey d && areKeys ds

end

/-- The value of a finite number, in units of the least one. -/
def units? : Document → Option Int
  | .bool b  => some (if b then twoTo 1074 else 0)
  | .int n   => some (n * twoTo 1074)
  | .float x => if x.isFinite then some x.units else none
  | _        => none

/-- Whether two documents are one key: numbers of the same value are, whatever their type. -/
def sameKey (a b : Document) : Bool :=
  match units? a, units? b with
  | some m, some n => m == n
  | none, none =>
    match a, b with
    | .null,     .null     => true
    | .float x,  .float y  => x = y
    | .str s,    .str t    => s = t
    | .bytes s,  .bytes t  => s = t
    | .moment m, .moment n => m = n
    | _,         _         => false
  | _, _ => false

/-- Files something under a key, in the place of what is there already. -/
def insert {α : Type} (k : Document) (v : α) : List (Document × α) → List (Document × α)
  | []           => [(k, v)]
  | (j, w) :: es => if sameKey j k then (j, v) :: es else (j, w) :: insert k v es

end Document

namespace Moment

private def numbers (ns : List Nat) : Text := Text.join ", " (ns.map Decimal.ofNat)

/-- A span of minutes as a literal. -/
def spanLiteral (minutes : Int) : Text :=
  let days := Int.fdiv minutes 1440
  let rest := Int.fmod minutes 1440 * 60
  let parts : List Text :=
    (if days = 0 then [] else [("days=" : Text) ++ Decimal.ofInt days]) ++
    (if rest = 0 then [] else [("seconds=" : Text) ++ Decimal.ofInt rest])
  "datetime.timedelta(" ++ (if parts.isEmpty then ("0" : Text) else Text.join ", " parts) ++ ")"

/-- A distance from Greenwich as a literal. -/
def zoneLiteral (minutes : Int) : Text :=
  if minutes = 0 then "datetime.timezone.utc"
  else "datetime.timezone(" ++ spanLiteral minutes ++ ")"

/-- The moment as a literal; seconds and microseconds are left out where they are zero. -/
def literal (m : Moment) : Text :=
  match m.time? with
  | none => "datetime.date(" ++ numbers [m.year, m.month, m.day] ++ ")"
  | some (h, mi, s, us) =>
    let clock :=
      if us ≠ 0 then [h, mi, s, us] else if s ≠ 0 then [h, mi, s] else [h, mi]
    let zone : Text := match m.zone? with
      | some z => ", tzinfo=" ++ zoneLiteral z
      | none   => []
    "datetime.datetime(" ++ numbers ([m.year, m.month, m.day] ++ clock) ++ zone ++ ")"

end Moment

namespace Document

mutual

/-- The document as a literal: texts quoted, lists in brackets, maps in braces. An integer of
more than 4300 digits has none. What stands for each collection that this is in, where it stands
again, is told. -/
def literalIn (around : List Text) : Document → Except Text Text
  | .null     => .ok "None"
  | .bool b   => .ok (if b then "True" else "False")
  | .int n    => Decimal.write n
  | .float x  => .ok x.text
  | .str t    => .ok t.quoted
  | .bytes b  => .ok b.quotedBytes
  | .moment m => .ok m.literal
  | .list ds  => do return "[" ++ Text.join ", " (← literalsIn ("[...]" :: around) ds) ++ "]"
  | .tuple ds => do
    match ← literalsIn ("(...)" :: around) ds with
    | [t] => return "(" ++ t ++ ",)"
    | ts  => return "(" ++ Text.join ", " ts ++ ")"
  | .set ds => do
    match ← literalsIn ("set(...)" :: around) ds with
    | [] => return "set()"
    | ts => return "\x7b" ++ Text.join ", " ts ++ "\x7d"
  | .map es => do
    return "\x7b" ++ Text.join ", " (← entryLiteralsIn ("\x7b...\x7d" :: around) es) ++ "\x7d"
  | .again n => .ok (around.getD n [])

def literalsIn (around : List Text) : List Document → Except Text (List Text)
  | []      => .ok []
  | d :: ds => do return (← literalIn around d) :: (← literalsIn around ds)

def entryLiteralsIn (around : List Text) : List (Document × Document) → Except Text (List Text)
  | []           => .ok []
  | (k, v) :: es => do
    let key ← literalIn around k
    return (key ++ ": " ++ (← literalIn around v)) :: (← entryLiteralsIn around es)

end

/-- The document as a literal. -/
def literal (d : Document) : Except Text Text := d.literalIn []

end Document

end Settle

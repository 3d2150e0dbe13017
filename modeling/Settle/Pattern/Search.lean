import Settle.Pattern.Class

/-!
# Searching

A node is matched at a spot of the subject: a position, and the ends of the groups captured so
far. Matching is by backtracking: a node is given what is to be matched behind it and tries its
possibilities in order until one of them leads to a match of the whole.
-/

namespace Settle.Pattern

/-- A position in the subject and the places where groups have begun and ended: group `i` at
`2 * i - 2` and `2 * i - 1`. -/
structure Spot where
  pos   : Nat
  marks : Array (Option Nat)

namespace Spot

def mark (s : Spot) (i : Nat) : Spot := { s with marks := s.marks.setIfInBounds i (some s.pos) }

/-- What a group has captured, as begin and end. -/
def capture? (s : Spot) (index : Nat) : Option (Nat × Nat) := do
  let b ← (s.marks[2 * index - 2]?).join
  let e ← (s.marks[2 * index - 1]?).join
  if b ≤ e then some (b, e) else none

end Spot

/-- What is matched behind a node. -/
abbrev Rest := Spot → Option Spot

/-- A way to match, given what is matched behind it. -/
abbrev Way := Spot → Rest → Option Spot

/-! ### Repetition

A repetition beyond the least number is not begun where the one before it began: it would match
nothing again. So the number of further repetitions is bounded by what is left of the subject,
which bounds the fuel. -/

/-- Another repetition is allowed. -/
def mayRepeat (most? : Option Nat) (count : Nat) (last? : Option Nat) (pos : Nat) : Bool :=
  most?.all (count < ·) && last? != some pos

/-- As many repetitions as possible first. -/
def greedyLoop (body : Way) (least : Nat) (most? : Option Nat) :
    Nat → Nat → Option Nat → Way
  | 0,        _,     _,     s, k => k s
  | fuel + 1, count, last?, s, k =>
    if count < least then
      body s fun s' => greedyLoop body least most? fuel (count + 1) last? s' k
    else if mayRepeat most? count last? s.pos then
      match body s fun s' => greedyLoop body least most? fuel (count + 1) (some s.pos) s' k with
      | some r => some r
      | none   => k s
    else k s

/-- As few repetitions as possible first. -/
def lazyLoop (body : Way) (least : Nat) (most? : Option Nat) :
    Nat → Nat → Option Nat → Way
  | 0,        _,     _,     s, k => k s
  | fuel + 1, count, last?, s, k =>
    if count < least then
      body s fun s' => lazyLoop body least most? fuel (count + 1) last? s' k
    else
      match k s with
      | some r => some r
      | none   =>
        if mayRepeat most? count last? s.pos then
          body s fun s' => lazyLoop body least most? fuel (count + 1) (some s.pos) s' k
        else none

/-- As many repetitions as possible and no others. -/
def possessiveLoop (body : Way) (least : Nat) (most? : Option Nat) :
    Nat → Nat → Option Nat → Way
  | 0,        _,     _,     s, k => k s
  | fuel + 1, count, last?, s, k =>
    if count < least then
      match body s some with
      | some s' => possessiveLoop body least most? fuel (count + 1) last? s' k
      | none    => none
    else if mayRepeat most? count last? s.pos then
      match body s some with
      | some s' => possessiveLoop body least most? fuel (count + 1) (some s.pos) s' k
      | none    => k s
    else k s

/-- Repetition in the order that `greed` asks for. -/
def Greed.repeats (greed : Greed) : Way → Nat → Option Nat → Nat → Nat → Option Nat → Way :=
  match greed with
  | .greedy     => greedyLoop
  | .lazy       => lazyLoop
  | .possessive => possessiveLoop

/-! ### Matching -/

/-- A place that an anchor describes. -/
def Anchor.holds (subject : Array CodePoint) (pos : Nat) : Anchor → Bool
  | .textStart | .firstLineStart => pos == 0
  | .lineStart    => pos == 0 || subject[pos - 1]? == some (CodePoint.ofChar '\n')
  | .textEnd      => pos == subject.size
  | .lineEnd      => pos == subject.size || subject[pos]? == some (CodePoint.ofChar '\n')
  | .finalLineEnd =>
    pos == subject.size ||
      pos + 1 == subject.size && subject[pos]? == some (CodePoint.ofChar '\n')
  | .wordEdge ascii   => !subject.isEmpty && edge ascii
  | .noWordEdge ascii => !subject.isEmpty && !edge ascii
where
  /-- Exactly one of the neighbours belongs to a word. -/
  edge (ascii : Bool) : Bool :=
    let before := pos != 0 && (subject[pos - 1]?).any (isWord ascii)
    let behind := (subject[pos]?).any (isWord ascii)
    before != behind

/-- One code point of which `p` holds. -/
def one (subject : Array CodePoint) (p : CodePoint → Bool) : Way := fun s k =>
  match subject[s.pos]? with
  | some c => if p c then k { s with pos := s.pos + 1 } else none
  | none   => none

/-- The code points from `b` to `e`, once more. -/
def again (subject : Array CodePoint) (m : Mode) (b e : Nat) : Way := fun s k =>
  let same := (List.range (e - b)).all fun i =>
    match subject[b + i]?, subject[s.pos + i]? with
    | some c, some d => sameFolded m c d
    | _,      _      => false
  if same then k { s with pos := s.pos + (e - b) } else none

/-- Matches a node and what is behind it. -/
def Node.run (subject : Array CodePoint) : Node → Way
  | .empty, s, k => k s
  | .point d negated m, s, k => one subject (fun c => samePoint m d c != negated) s k
  | .oneOf entries negated m, s, k => one subject (fun c => inEntries m entries c != negated) s k
  | .any lineFeed, s, k => one subject (fun c => lineFeed || c ≠ '\n') s k
  | .anchor a, s, k => if a.holds subject s.pos then k s else none
  | .seq a b, s, k => a.run subject s fun s' => b.run subject s' k
  | .alt a b, s, k =>
    match a.run subject s k with
    | some r => some r
    | none   => b.run subject s k
  | .loop greed least most? body, s, k =>
    greed.repeats (body.run subject) least most? (least + (subject.size - s.pos) + 2) 0 none s k
  | .group i body, s, k =>
    body.run subject (s.mark (2 * i - 2)) fun s' => k (s'.mark (2 * i - 1))
  | .flagged body, s, k => body.run subject s k
  | .atomic body, s, k =>
    match body.run subject s some with
    | some s' => k s'
    | none    => none
  | .ahead negated body, s, k =>
    match body.run subject s some with
    | some s' => if negated then none else k { s' with pos := s.pos }
    | none    => if negated then k s else none
  | .behind negated body, s, k =>
    let found :=
      if body.width.1 ≤ s.pos then body.run subject { s with pos := s.pos - body.width.1 } some
      else none
    match found with
    | some s' => if negated then none else k { s' with pos := s.pos }
    | none    => if negated then k s else none
  | .backref i _ _ m, s, k =>
    match s.capture? i with
    | some (b, e) => again subject m b e s k
    | none        => none
  | .whether i yes no, s, k =>
    if (s.capture? i).isSome then yes.run subject s k else no.run subject s k

/-! ### Searching

Where a match has to begin with a set, a search tries only places where the set stands. There the
classes in the set are read by the flags of the whole expression, also where a group around the set
has others. -/

/-- The set that a match begins with, unless case matters to it. -/
def Node.firstSet? : Node → Option (List Entry × Bool × Mode)
  | .oneOf entries negated m =>
    let cased : Entry → Bool
      | .point c => m.isCased c
      | e        => e.hasCase m
    if m.foldCase && entries.any cased then none else some (entries, negated, m)
  | .seq a b => if a.items.isEmpty then b.firstSet? else a.firstSet?
  | .group _ b | .flagged b => b.firstSet?
  | _ => none

/-- What is searched for in an expression whose flags ask for ASCII or not. -/
def Node.searched (ascii : Bool) (n : Node) : Node :=
  match n.firstSet? with
  | some (entries, negated, m) =>
    if m.ascii = ascii || n.width.1 = 0 then n
    else .seq (.ahead false (.oneOf entries negated ⟨false, ascii⟩)) n
  | none => n

/-- The nodes match from a position on. -/
def Node.matchesAt (n : Node) (subject : Array CodePoint) (pos : Nat) : Bool :=
  (n.run subject ⟨pos, Array.replicate (2 * n.groupCount) none⟩ some).isSome

/-- The node matches somewhere. -/
def Node.foundIn (n : Node) (subject : Text) : Bool :=
  let subject := subject.toArray
  (List.range (subject.size + 1)).any (n.matchesAt subject)

end Settle.Pattern

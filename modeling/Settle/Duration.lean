import Settle.Document.Basic
import Settle.Failure
import Settle.Number.Literal

/-!
# Durations as text

A duration is a number of seconds, or a row of numbers that have a unit each, as in `1h30m`. The
two forms do not overlap: a number has no unit, and a row ends in one.
-/

namespace Settle

/-- The units of duration. -/
inductive TimeUnit where
  | millisecond
  | second
  | minute
  | hour
  deriving DecidableEq

/-- A number as it is written, and its unit. -/
structure Segment where
  number : Text
  unit   : TimeUnit
  deriving DecidableEq

namespace TimeUnit

/-- The unit at the front of a text: the longest one. -/
def read? : Text → Option (TimeUnit × Text)
  | []     => none
  | c :: t =>
    if c = 'm' then
      match t with
      | d :: u => if d = 's' then some (.millisecond, u) else some (.minute, t)
      | []     => some (.minute, [])
    else if c = 's' then some (.second, t)
    else if c = 'h' then some (.hour, t)
    else none

/-- Seconds to the unit. -/
def seconds : TimeUnit → Binary64
  | .millisecond => Binary64.ofDecimal false 1 (-3)
  | .second      => .ofNat 1
  | .minute      => .ofNat 60
  | .hour        => .ofNat 3600

theorem read?_length {t r : Text} {u : TimeUnit} (h : read? t = some (u, r)) :
    r.length < t.length := by
  cases t with
  | nil => cases h
  | cons c t =>
    simp only [read?] at h
    split at h
    · split at h
      · split at h
        · cases h; simp only [List.length_cons]; omega
        · cases h; simp
      · cases h; simp
    · split at h
      · cases h; simp
      · split at h <;> cases h; simp

end TimeUnit

namespace Segment

/-- Decimal digits, and more of them behind a point if there is one. -/
def splitNumber (t : Text) : Text × Text :=
  let whole := t.takeWhile CodePoint.isDecimal
  match t.dropWhile CodePoint.isDecimal with
  | c :: rest =>
    let places := rest.takeWhile CodePoint.isDecimal
    if c = '.' && !places.isEmpty then
      (whole ++ c :: places, rest.dropWhile CodePoint.isDecimal)
    else (whole, c :: rest)
  | [] => (whole, [])

/-- The segment at the front of a text. -/
def read? (t : Text) : Option (Segment × Text) :=
  if (t.takeWhile CodePoint.isDecimal).isEmpty then none
  else (TimeUnit.read? (splitNumber t).2).map fun (u, rest) => (⟨(splitNumber t).1, u⟩, rest)

theorem splitNumber_length (t : Text) : (splitNumber t).2.length ≤ t.length := by
  have h := (List.dropWhile_sublist CodePoint.isDecimal (l := t)).length_le
  unfold splitNumber
  split
  · rename_i c rest e
    rw [e] at h
    have h₂ := (List.dropWhile_sublist CodePoint.isDecimal (l := rest)).length_le
    simp only [List.length_cons] at h ⊢
    split
    · simp only; omega
    · simpa using h
  · simp

theorem read?_length {t r : Text} {s : Segment} (h : read? t = some (s, r)) :
    r.length < t.length := by
  unfold read? at h
  split at h
  · cases h
  · obtain ⟨⟨u, r₁⟩, h₁, e⟩ := Option.map_eq_some_iff.1 h
    cases e
    exact Nat.lt_of_lt_of_le (TimeUnit.read?_length h₁) (splitNumber_length t)

/-- The segments that a text consists of. -/
def readAll? (t : Text) : Option (List Segment) :=
  if t.isEmpty then some []
  else
    match _h : read? t with
    | none        => none
    | some (s, r) => (readAll? r).map (s :: ·)
termination_by t.length
decreasing_by exact read?_length _h

/-- The number of seconds of a segment. -/
def seconds (s : Segment) : Binary64 :=
  (Binary64.ofText? s.number).getD .nan * s.unit.seconds

end Segment

namespace Duration

/-- The seconds of a row of segments, added from the left. -/
def total (segments : List Segment) : Binary64 :=
  segments.foldl (fun sum s => sum + s.seconds) 0

/-- The seconds that a text denotes; blanks at its ends do not matter. -/
def seconds? (t : Text) : Option Binary64 :=
  let body := t.trim CodePoint.isBlank
  match Binary64.ofText? body with
  | some x => some x
  | none   =>
    if body.isEmpty then none else (Segment.readAll? body).map total

/-- The seconds that a number stands for or a text denotes. -/
def ofDocument : Document → Except Failure Binary64
  | .int n =>
    match Binary64.ofInt? n with
    | some x => .ok x
    | none   => .error .overflow
  | .float x => .ok x
  | .str t =>
    match seconds? t with
    | some x => .ok x
    | none   => .error (.invalid
        ("invalid duration " ++ t.quoted ++ ", expected e.g. '30s', '10m' or '1h30m'"))
  | d => do .error (.invalid ("invalid duration " ++ (← d.literal.mapError .invalid)))

end Duration

end Settle

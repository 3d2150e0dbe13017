import Settle.Document.Basic
import Settle.Failure

/-!
# Dates and times of day

A date is a year, a month and a day. A time of day may follow it, with a fraction of a second and
the distance from Greenwich.
-/

namespace Settle.Yaml.Moment

/-! ### Form -/

/-- A number of at least `least` and at most `most` digits at the front. -/
def number? (least most : Nat) (t : Text) : Option (Nat × Text) :=
  let ds := (t.take most).takeWhile CodePoint.isDigit
  if ds.length < least then none else some (Decimal.value ds, t.drop ds.length)

/-- What follows a character. -/
def behind? (c : Char) (t : Text) : Option Text := Text.after? [CodePoint.ofChar c] t

def isBlank (c : CodePoint) : Bool := c = ' ' || c = '\t'

/-- A year, a month and a day. -/
def date? (t : Text) : Option ((Nat × Nat × Nat) × Text) := do
  let (y, t) ← number? 4 4 t
  let (m, t) ← number? 1 2 (← behind? '-' t)
  let (d, t) ← number? 1 2 (← behind? '-' t)
  return ((y, m, d), t)

/-- The first six places of a fraction, as a number. -/
def millionths (places : Text) : Nat :=
  Decimal.value (places.take 6) * tenTo (6 - min 6 places.length)

/-- A time of day, behind what separates it from the date. -/
def clock? (t : Text) : Option ((Nat × Nat × Nat × Nat) × Text) := do
  let t ← match t with
    | c :: r =>
      if c = 't' || c = 'T' then some r
      else if isBlank c then some (r.dropWhile isBlank)
      else none
    | [] => none
  let (h, t) ← number? 1 2 t
  let (m, t) ← number? 2 2 (← behind? ':' t)
  let (s, t) ← number? 2 2 (← behind? ':' t)
  match behind? '.' t with
  | none   => return ((h, m, s, 0), t)
  | some t =>
    let places := t.takeWhile CodePoint.isDigit
    return ((h, m, s, millionths places), t.drop places.length)

/-- The distance from Greenwich in minutes, if there is one, up to the end. -/
def zone? (t : Text) : Option (Option Int) := do
  match t.dropWhile isBlank with
  | [] => if t.isEmpty then return none else none
  | c :: t =>
    if c = 'Z' then
      if t.isEmpty then return some 0 else none
    else if c = '+' || c = '-' then
      let (h, t) ← number? 1 2 t
      let (m, t) ← match behind? ':' t with
        | some t => number? 2 2 t
        | none   => some (0, t)
      let n : Int := 60 * h + m
      if t.isEmpty then return some (if c = '-' then -n else n) else none
    else none

/-- The moment that a text describes, in the right form but perhaps out of range. A line break at
the end does not count. -/
def form? (t : Text) : Option Moment := do
  let t := if t.getLast? = some (CodePoint.ofChar '\n') then t.dropLast else t
  let ((y, m, d), t) ← date? t
  if t.isEmpty then return ⟨y, m, d, none, none⟩
  let (time, t) ← clock? t
  return ⟨y, m, d, some time, ← zone? t⟩

/-! ### Range -/

def daysIn (year month : Nat) : Nat :=
  if month = 2 then
    if year % 4 = 0 && (year % 100 ≠ 0 || year % 400 = 0) then 29 else 28
  else if month = 4 || month = 6 || month = 9 || month = 11 then 30
  else 31

/-- What is out of range, if anything is. -/
def problem? (m : Moment) : Option Text :=
  let (h, mi, s, _) := m.time?.getD (0, 0, 0, 0)
  let z := m.zone?.getD 0
  if 24 * 60 ≤ z.natAbs then
    some ("offset must be a timedelta strictly between -timedelta(hours=24) and " ++
      "timedelta(hours=24), not " ++ Moment.spanLiteral z ++ ".")
  else if m.year = 0 then some "year 0 is out of range"
  else if m.month = 0 || 12 < m.month then some "month must be in 1..12"
  else if m.day = 0 || daysIn m.year m.month < m.day then some "day is out of range for month"
  else if 23 < h then some "hour must be in 0..23"
  else if 59 < mi then some "minute must be in 0..59"
  else if 59 < s then some "second must be in 0..59"
  else none

/-- The moment that a text describes. -/
def read (t : Text) : Except Failure Moment :=
  match form? t with
  | none   => .error (.external "AttributeError" "a text is no moment")
  | some m =>
    match problem? m with
    | some p => .error (.invalid p)
    | none   => .ok m

end Settle.Yaml.Moment

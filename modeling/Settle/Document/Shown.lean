import Settle.Document.Basic

/-!
# Documents in messages

In running text, a text stands for itself, a moment is written with its date first, and any other
document is a literal.
-/

namespace Settle

namespace Moment

/-- A number of at least `width` digits. -/
def padded (width n : Nat) : Text :=
  let ds := Decimal.ofNat n
  List.replicate (width - ds.length) (CodePoint.ofChar '0') ++ ds

/-- A distance from Greenwich in hours and minutes. -/
def zoneText (minutes : Int) : Text :=
  let n := minutes.natAbs
  (if minutes < 0 then ("-" : Text) else "+") ++ padded 2 (n / 60) ++ ":" ++ padded 2 (n % 60)

/-- The moment as text; microseconds are left out where they are zero. -/
def text (m : Moment) : Text :=
  let date := padded 4 m.year ++ "-" ++ padded 2 m.month ++ "-" ++ padded 2 m.day
  match m.time? with
  | none => date
  | some (h, mi, s, us) =>
    let fraction : Text := if us = 0 then [] else ("." : Text) ++ padded 6 us
    date ++ " " ++ padded 2 h ++ ":" ++ padded 2 mi ++ ":" ++ padded 2 s ++ fraction ++
      (m.zone?.map zoneText).getD []

end Moment

/-- The document in running text; one with a number that is too large to be written is empty. -/
def Document.shown : Document → Text
  | .str t    => t
  | .moment m => m.text
  | d         => d.literal.toOption.getD []

@[simp] theorem Document.shown_str (t : Text) : (Document.str t).shown = t := rfl

end Settle

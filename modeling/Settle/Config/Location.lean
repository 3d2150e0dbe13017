import Settle.Text.Basic

/-!
# Locations of files

A location is a root and the names below it. The same file may be written in several ways; the
written form of a location has single slashes, no names that stand for the directory itself, and
no slash at its end. A first name that begins with a tilde stands for somebody's home.
-/

namespace Settle

structure Location where
  /-- Empty, one slash or two. -/
  root  : Text
  parts : List Text
  deriving DecidableEq

namespace Location

/-- The names between slashes. -/
def split (t : Text) : List Text :=
  let rest := t.dropWhile (· ≠ CodePoint.ofChar '/')
  let name := t.takeWhile (· ≠ CodePoint.ofChar '/')
  match _h : rest with
  | []     => [name]
  | _ :: r => name :: split r
termination_by t.length
decreasing_by
  have h := (List.dropWhile_sublist (· ≠ CodePoint.ofChar '/') (l := t)).length_le
  simp only [rest] at _h
  rw [_h] at h
  exact h

def ofText (t : Text) : Location :=
  let names := t.dropWhile (· = CodePoint.ofChar '/')
  let root : Text := match t.length - names.length with
    | 0 => []
    | 2 => "//"
    | _ => "/"
  ⟨root, (split names).filter fun n => !n.isEmpty && decide (n ≠ ".")⟩

/-- The written form. -/
def text (l : Location) : Text :=
  if l.root.isEmpty && l.parts.isEmpty then "." else l.root ++ Text.join "/" l.parts

/-- The location of a file; a text that ends without a name is none. -/
def ofFile? (t : Text) : Option Location :=
  match (split t).getLast? with
  | some n => if n.isEmpty || n = "." then none else some (ofText t)
  | none   => none

/-- The home that stands for a tilde: slashes at its end do not count. -/
def ofHome? (home : Text) : Option Location :=
  let trimmed := (home.reverse.dropWhile (· = CodePoint.ofChar '/')).reverse
  if Text.startsWith trimmed "~" then none
  else some (ofText (if trimmed.isEmpty then "/" else trimmed))

/-- The location with a tilde replaced by a home; `homes` knows homes by their owners' names. -/
def expand? (homes : Text → Option Text) (l : Location) : Option Location :=
  match l.root, l.parts with
  | [], (c :: owner) :: rest =>
    if c = '~' then do
      let home ← ofHome? (← homes owner)
      return { home with parts := home.parts ++ rest }
    else some l
  | _, _ => some l

end Location

end Settle

import Settle.Number.Binary64
import Settle.Text.Basic

/-!
# Values

The data that a cluster returns: JSON with integers of any size beside binary floating-point
numbers. A map keeps the order of its entries, and its keys differ from one another.
-/

namespace Settle

inductive Value where
  | null
  | bool (b : Bool)
  | int (n : Int)
  | float (x : Binary64)
  | str (t : Text)
  | list (items : List Value)
  | map (entries : List (Text × Value))
  deriving Inhabited

namespace Value

instance : Coe Text Value := ⟨.str⟩

/-- The name of a value's type in messages. -/
def typeName : Value → Text
  | .null    => "NoneType"
  | .bool _  => "bool"
  | .int _   => "int"
  | .float _ => "float"
  | .str _   => "str"
  | .list _  => "list"
  | .map _   => "dict"

def isNull : Value → Bool
  | .null => true
  | _     => false

/-- The value filed under a key. -/
def lookup (key : Text) (entries : List (Text × Value)) : Option Value :=
  List.lookup key entries

/-- Counts as nothing: null, false, zero, and whatever is empty. -/
def isBlank : Value → Bool
  | .null         => true
  | .bool b       => !b
  | .int n        => n == 0
  | .float x      => x.same 0
  | .str t        => t.isEmpty
  | .list items   => items.isEmpty
  | .map entries  => entries.isEmpty

/-! ### Equality of values

Numbers are equal when they denote the same number, whatever their type, and `true` and `false`
count as one and zero; maps are compared without regard to order. -/

/-- The integer that a boolean or an integer stands for. -/
def whole? : Value → Option Int
  | .bool b => some (if b then 1 else 0)
  | .int n  => some n
  | _       => none

/-- An integer and a floating-point number are the same number. -/
def sameNumber (n : Int) (x : Binary64) : Bool :=
  x.isFinite && x.units == n * twoTo 1074

mutual

/-- Equal as data. -/
def same : Value → Value → Bool
  | .null, .null => true
  | .str s, .str t => s = t
  | .float x, .float y => x.same y
  | .float x, w => match w.whole? with
    | some n => sameNumber n x
    | none   => false
  | .list vs, .list ws => sameItems vs ws
  | .map es, .map fs => es.length == fs.length && sameEntries es fs
  | v, .float y => match v.whole? with
    | some n => sameNumber n y
    | none   => false
  | v, w => match v.whole?, w.whole? with
    | some m, some n => m == n
    | _, _           => false

def sameItems : List Value → List Value → Bool
  | [], [] => true
  | v :: vs, w :: ws => same v w && sameItems vs ws
  | _, _ => false

/-- Each entry of the first list has an equal one of its key in the second. -/
def sameEntries : List (Text × Value) → List (Text × Value) → Bool
  | [], _ => true
  | (k, v) :: es, fs => match List.lookup k fs with
    | some w => same v w && sameEntries es fs
    | none   => false

end

/-- Only a text is equal to a text. -/
theorem same_str_iff {v : Value} {t : Text} : v.same (.str t) = true ↔ v = .str t := by
  cases v <;> simp [same, whole?]

end Value

end Settle

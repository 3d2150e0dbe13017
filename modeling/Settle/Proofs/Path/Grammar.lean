import Settle.Path.Basic
import Settle.Proofs.Text.Numeral

/-!
# The grammar of field paths

A path is written as a name and any number of segments, each of which denotes a step. A key stands
between quotation marks as plain code points and escapes. An escape whose number is a high
surrogate reaches over an escape `\u` right behind it: the two have to form a surrogate pair, and
denote one code point.
-/

namespace Settle

namespace Path

/-! ### Names and numbers -/

/-- A letter or an underscore, and then letters, digits, underscores and hyphens. -/
inductive IsName : Text → Prop where
  | intro {c : CodePoint} {t : Text} (first : c.isLetter ∨ c = '_')
      (rest : ∀ d ∈ t, d.isLetter ∨ d.isDigit ∨ d = '_' ∨ d = '-') : IsName (c :: t)

/-- One digit or more, but not too many, and the number that they denote in base ten. Leading
zeros count for nothing. -/
structure Numeral (ds : Text) (n : Nat) : Prop where
  nonempty : ds ≠ []
  length   : ds.length ≤ 4300
  digits   : ∀ d ∈ ds, d.isDigit
  value    : Text.number 10 Decimal.digitValue ds = n

/-- So many hexadecimal digits, and the number that they denote. -/
structure HexNumeral (width : Nat) (ds : Text) (n : Nat) : Prop where
  length : ds.length = width
  digits : ∀ d ∈ ds, d.isHexDigit
  value  : Text.number 16 CodePoint.hexValue ds = n

/-! ### Keys -/

/-- The letters that stand behind a backslash, and what each denotes. -/
def letters : List (CodePoint × CodePoint) :=
  [('n', '\n'), ('r', '\r'), ('t', '\t'), ('b', '\x08'), ('f', '\x0c'), ('/', '/'), ('"', '"'),
    ('\\', '\\')]

/-- An escape by number, short or long. -/
inductive NumberEscape : Text → Nat → Prop where
  | short {ds : Text} {n : Nat} (h : HexNumeral 4 ds n) : NumberEscape ("\\u" ++ ds) n
  | long {ds : Text} {n : Nat} (h : HexNumeral 8 ds n) : NumberEscape ("\\U" ++ ds) n

/-- A text in front of `behind` is an escape of a code point. -/
inductive Escape (behind : Text) : Text → CodePoint → Prop where
  | letter {l c : CodePoint} (mem : (l, c) ∈ letters) : Escape behind ['\\', l] c
  /-- No high surrogate stands alone in front of another short escape. -/
  | number {e : Text} {c : CodePoint} (number : NumberEscape e c.val)
      (alone : c.isHighSurrogate → ¬ ("\\u" : Text) <+: behind) : Escape behind e c
  | pair {e ds : Text} {high low : Nat} {c : CodePoint} (number : NumberEscape e high)
      (digits : HexNumeral 4 ds low) (units : c.units = [high, low]) :
      Escape behind (e ++ ("\\u" ++ ds)) c

/-- A text between quotation marks spells a key. -/
inductive Spells : Text → Text → Prop where
  | nil : Spells [] []
  | plain {c : CodePoint} {t k : Text} (mark : c ≠ '"') (backslash : c ≠ '\\')
      (rest : Spells t k) : Spells (c :: t) (c :: k)
  | escape {e t k : Text} {c : CodePoint} (escape : Escape t e c) (rest : Spells t k) :
      Spells (e ++ t) (c :: k)

/-! ### Segments and paths -/

/-- A segment denotes a step. -/
inductive Denotes : Text → Step → Prop where
  | name {n : Text} (h : IsName n) : Denotes ("." ++ n) (.field n)
  | dotted {ds : Text} {n : Nat} (h : Numeral ds n) : Denotes ("." ++ ds) (.index n)
  | index {ds : Text} {n : Nat} (h : Numeral ds n) : Denotes ("[" ++ (ds ++ "]")) (.index n)
  | key {t k : Text} (h : Spells t k) : Denotes ("[\"" ++ (t ++ "\"]")) (.key k)

/-- A path as it is written: a name, and segments with the steps that they denote. -/
@[ext]
structure Form where
  root     : Text
  segments : List (Text × Step)
  isName   : IsName root
  denote   : ∀ s ∈ segments, Denotes s.1 s.2

namespace Form

def text (f : Form) : Text := f.root ++ f.segments.flatMap Prod.fst

def path (f : Form) : Path := ⟨.field f.root :: f.segments.map Prod.snd⟩

end Form

end Path

end Settle

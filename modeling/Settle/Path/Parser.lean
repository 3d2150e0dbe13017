import Settle.Path.Basic
import Settle.Path.Error

/-!
# Reading paths

A path begins with a name; further segments are `.name`, `.digits`, `[digits]` and `["key"]`. A
key may hold escapes, of which two that form a surrogate pair denote one code point.

Readers take the text that is left and give what they read with the text behind it; an offset is
the length of the whole text less what is left.
-/

namespace Settle.Path

/-! ### Names and numbers -/

def beginsName (c : CodePoint) : Bool := c.isLetter || c = '_'

def continuesName (c : CodePoint) : Bool := c.isLetter || c.isDigit || c = '_' || c = '-'

/-- The longest name at the front. -/
def name? : Text → Option (Text × Text)
  | []     => none
  | c :: t =>
    if beginsName c then some (c :: t.takeWhile continuesName, t.dropWhile continuesName) else none

/-- The longest row of digits at the front, perhaps empty. -/
def digits (t : Text) : Text × Text :=
  (t.takeWhile CodePoint.isDigit, t.dropWhile CodePoint.isDigit)

/-- What follows a fraction, if one is at the front. -/
def skipFraction : Text → Text
  | []     => []
  | c :: t => if c = '.' then t.dropWhile CodePoint.isDigit else c :: t

/-- What follows a decimal exponent, if one is at the front. -/
def skipExponent : Text → Text
  | []     => []
  | c :: t =>
    if c = 'e' || c = 'E' then
      let u := match t with
        | s :: u => if s = '+' || s = '-' then u else t
        | []     => []
      if (digits u).1.isEmpty then c :: t else (digits u).2
    else c :: t

/-- The number of an index. -/
def place (ds : Text) : Except PathError Nat :=
  if Decimal.digitLimit < ds.length then .error (.longIndex ds.length)
  else .ok (Decimal.value ds)

/-- What follows a hyphen, if one is at the front. -/
def skipMinus : Text → Text
  | []     => []
  | c :: t => if c = '-' then t else c :: t

/-- An unsigned number without fraction and exponent. -/
def indexNumber (total : Nat) (t : Text) : Except PathError (Nat × Text) :=
  let ds := (digits (skipMinus t)).1
  let rest := (digits (skipMinus t)).2
  if ds.isEmpty then .error (.fault (.expectedIndex (total - t.length)))
  else if t.head? = some (CodePoint.ofChar '-') ∨ skipExponent (skipFraction rest) ≠ rest then
    .error (.fault .fractionalIndex)
  else (place ds).map (·, rest)

/-! ### Quoted keys -/

/-- The code point of an escape of one letter. -/
def shortEscape? (c : CodePoint) : Option CodePoint :=
  if c = 'n' then some '\n'
  else if c = 'r' then some '\r'
  else if c = 't' then some '\t'
  else if c = 'b' then some '\x08'
  else if c = 'f' then some '\x0c'
  else if c = '/' then some '/'
  else if c = '"' then some '"'
  else if c = '\\' then some '\\'
  else none

/-- The number of `width` hexadecimal digits. -/
def hexNumber (letter : CodePoint) (width : Nat) (t : Text) : Except PathError (Nat × Text) :=
  if (t.take width).length = width ∧ (t.take width).all CodePoint.isHexDigit then
    .ok (Text.hexValue (t.take width), t.drop width)
  else .error (.fault (.shortEscape letter width))

/-- The number that two surrogates stand for. -/
def combine (high low : Nat) : Nat := 0x10000 + (high - 0xD800) * 0x400 + (low - 0xDC00)

/-- The number of an escape, joined with the escape behind it if it is a high surrogate. -/
def escapedNumber (letter : CodePoint) (t : Text) : Except PathError (Nat × Text) := do
  let (code, t) ← hexNumber letter (if letter = 'u' then 4 else 8) t
  match t with
  | b :: u :: t' =>
    if 0xD800 ≤ code && code ≤ 0xDBFF && b = '\\' && u = 'u' then
      let (low, t') ← hexNumber 'u' 4 t'
      if 0xDC00 ≤ low && low ≤ 0xDFFF then return (combine code low, t')
      else .error (.fault (.unpairedSurrogate code low))
    else return (code, t)
  | _ => return (code, t)

/-- What the escape whose letter is `c` denotes. -/
def escape (c : CodePoint) (t : Text) : Except PathError (CodePoint × Text) :=
  match shortEscape? c with
  | some d => .ok (d, t)
  | none   =>
    if c = 'u' || c = 'U' then do
      let (code, t) ← escapedNumber c t
      match CodePoint.ofNat? code with
      | some d => return (d, t)
      | none   =>
        if 0x7fffffff < code then .error .hugeCodePoint
        else .error (.fault (.noCodePoint c code))
    else .error (.fault (.unknownEscape c))

theorem hexNumber_length {l : CodePoint} {w n : Nat} {t r : Text}
    (h : hexNumber l w t = .ok (n, r)) : r.length ≤ t.length := by
  unfold hexNumber at h
  split at h
  · cases h; simp
  · cases h

theorem escapedNumber_length {l : CodePoint} {n : Nat} {t r : Text}
    (h : escapedNumber l t = .ok (n, r)) : r.length ≤ t.length := by
  unfold escapedNumber at h
  cases h₁ : hexNumber l (if l = 'u' then 4 else 8) t with
  | error e => simp [h₁, bind, Except.bind] at h
  | ok p =>
    obtain ⟨code, t₁⟩ := p
    have l₁ := hexNumber_length h₁
    simp only [h₁, bind, Except.bind] at h
    split at h
    · split at h
      · rename_i b u t' _
        cases h₂ : hexNumber 'u' 4 t' with
        | error e => simp [h₂] at h
        | ok q =>
          obtain ⟨low, t₂⟩ := q
          have l₂ := hexNumber_length h₂
          simp only [h₂] at h
          split at h
          · simp only [pure, Except.pure, Except.ok.injEq, Prod.mk.injEq] at h
            obtain ⟨_, rfl⟩ := h
            simp only [List.length_cons] at l₁
            omega
          · cases h
      · cases h; exact l₁
    · cases h; exact l₁

theorem escape_length {c d : CodePoint} {t r : Text} (h : escape c t = .ok (d, r)) :
    r.length ≤ t.length := by
  unfold escape at h
  split at h
  · cases h; exact Nat.le_refl _
  · split at h
    · cases h₁ : escapedNumber c t with
      | error e => simp [h₁, bind, Except.bind] at h
      | ok p =>
        have l₁ := escapedNumber_length h₁
        simp only [h₁, bind, Except.bind] at h
        split at h
        · cases h; exact l₁
        · split at h <;> cases h
    · cases h

/-- The rest of a key up to its closing quotation mark. -/
def quotedKey (t : Text) : Except PathError (Text × Text) :=
  match t with
  | []     => .error (.fault .unclosedQuote)
  | c :: t =>
    if c = '"' then .ok ([], t)
    else if c = '\\' then
      match t with
      | []     => .error (.fault .unclosedQuote)
      | e :: t =>
        match _h : escape e t with
        | .error x     => .error x
        | .ok (d, r) => (quotedKey r).map fun (k, r) => (d :: k, r)
    else (quotedKey t).map fun (k, r) => (c :: k, r)
termination_by t.length
decreasing_by
  · have := escape_length _h; simp; omega
  · simp

/-! ### Segments -/

/-- What stands behind a dot. -/
def dotted (total : Nat) (t : Text) : Except PathError (Step × Text) :=
  if t.head? = some (CodePoint.ofChar '*') then .error (.fault .splat)
  else
    let ds := (digits t).1
    let rest := (digits t).2
    if ds.isEmpty then
      match name? t with
      | some (n, rest) => .ok (.field n, rest)
      | none           => .error (.fault (.expectedName (total - t.length)))
    else if rest.head?.all (fun c : CodePoint => c = '.' || c = '[') then
      (place ds).map (.index ·, rest)
    else .error (.fault (.digitsInName (total - t.length)))

/-- What stands behind an opening bracket, without the closing one. -/
def bracketed (total : Nat) : Text → Except PathError (Step × Text)
  | []     => .error (.fault (.expectedIndex total))
  | c :: t =>
    if c = '*' then .error (.fault .splat)
    else if c = '"' then (quotedKey t).map fun (k, rest) => (.key k, rest)
    else (indexNumber total (c :: t)).map fun (n, rest) => (.index n, rest)

/-- One segment: a dot or a bracket and what belongs to it. -/
def segment (total : Nat) : Text → Except PathError (Step × Text)
  | []     => .error (.fault .empty)
  | c :: t =>
    if c = '.' then dotted total t
    else if c = '[' then do
      let (step, rest) ← bracketed total t
      match rest with
      | b :: rest =>
        if b = ']' then return (step, rest)
        else .error (.fault (.unclosedBracket (total - rest.length - 1)))
      | [] => .error (.fault (.unclosedBracket total))
    else .error (.fault (.unexpected c (total - t.length - 1)))

/-! ### Lengths

Each segment takes at least its first code point, so a text has as many segments as it has room
for. -/

theorem dropWhile_length_le (p : CodePoint → Bool) (t : Text) :
    (t.dropWhile p).length ≤ t.length := (List.dropWhile_sublist p).length_le

theorem map_ok {α β : Type} {x : Except PathError α} {f : α → β} {b : β}
    (h : x.map f = .ok b) : ∃ a, x = .ok a ∧ f a = b := by
  cases x with
  | error e => simp [Except.map] at h
  | ok a => exact ⟨a, rfl, by simpa [Except.map] using h⟩

theorem quotedKey_length {t k r : Text} (h : quotedKey t = .ok (k, r)) :
    r.length < t.length := by
  fun_induction quotedKey t generalizing k r with
  | case1 => cases h
  | case2 => cases h; simp
  | case3 => cases h
  | case4 => cases h
  | case5 =>
    rename_i h₁ _ ih
    obtain ⟨⟨k₂, r₂⟩, h₂, e⟩ := map_ok h
    cases e
    have := escape_length h₁
    have := ih h₂
    simp; omega
  | case6 =>
    rename_i ih
    obtain ⟨⟨k₂, r₂⟩, h₂, e⟩ := map_ok h
    cases e
    have := ih h₂
    simp; omega

theorem digits_length (t : Text) : (digits t).2.length ≤ t.length := dropWhile_length_le _ t

theorem name?_length {t n r : Text} (h : name? t = some (n, r)) : r.length < t.length := by
  cases t with
  | nil => simp [name?] at h
  | cons c t =>
    simp only [name?] at h
    split at h
    · cases h
      have := dropWhile_length_le continuesName t
      simp; omega
    · cases h

theorem skipMinus_length (t : Text) : (skipMinus t).length ≤ t.length := by
  cases t with
  | nil => simp [skipMinus]
  | cons c t => simp only [skipMinus]; split <;> simp

theorem indexNumber_length {total n : Nat} {t r : Text}
    (h : indexNumber total t = .ok (n, r)) : r.length ≤ t.length := by
  simp only [indexNumber] at h
  split at h
  · cases h
  · split at h
    · cases h
    · obtain ⟨m, _, e⟩ := map_ok h
      cases e
      exact Nat.le_trans (digits_length _) (skipMinus_length t)

theorem dotted_length {total : Nat} {s : Step} {t r : Text}
    (h : dotted total t = .ok (s, r)) : r.length ≤ t.length := by
  unfold dotted at h
  split at h
  · cases h
  · simp only at h
    split at h
    · split at h
      · rename_i h₁
        cases h
        exact Nat.le_of_lt (name?_length h₁)
      · cases h
    · split at h
      · obtain ⟨m, _, e⟩ := map_ok h
        cases e
        exact digits_length t
      · cases h

theorem bracketed_length {total : Nat} {s : Step} {t r : Text}
    (h : bracketed total t = .ok (s, r)) : r.length ≤ t.length := by
  cases t with
  | nil => cases h
  | cons c t =>
    simp only [bracketed] at h
    split at h
    · cases h
    · split at h
      · obtain ⟨⟨k, r₂⟩, h₁, e⟩ := map_ok h
        cases e
        have := quotedKey_length h₁
        simp; omega
      · obtain ⟨⟨k, r₂⟩, h₁, e⟩ := map_ok h
        cases e
        exact indexNumber_length h₁

theorem segment_length {total : Nat} {s : Step} {t r : Text}
    (h : segment total t = .ok (s, r)) : r.length < t.length := by
  cases t with
  | nil => cases h
  | cons c t =>
    simp only [segment] at h
    split at h
    · have := dotted_length h
      simp; omega
    · split at h
      · cases h₁ : bracketed total t with
        | error e => simp [h₁, bind, Except.bind] at h
        | ok p =>
          obtain ⟨s₁, r₁⟩ := p
          have := bracketed_length h₁
          simp only [h₁, bind, Except.bind] at h
          split at h
          · split at h
            · cases h
              simp only [List.length_cons] at this ⊢
              omega
            · cases h
          · cases h
      · cases h

/-! ### Paths -/

/-- Segments up to the end of the text. -/
def segments (total : Nat) (t : Text) : Except PathError (List Step) :=
  match t with
  | [] => .ok []
  | c :: t =>
    match _h : segment total (c :: t) with
    | .error e   => .error e
    | .ok (s, r) => (segments total r).map (s :: ·)
termination_by t.length
decreasing_by exact segment_length _h

/-- The path that a text denotes. -/
def parse (t : Text) : Except PathError Path :=
  if t.isEmpty then .error (.fault .empty)
  else if t.head? = some (CodePoint.ofChar '*') then .error (.fault .splat)
  else
    match name? t with
    | none        => .error (.fault (.expectedName 0))
    | some (n, r) => (segments t.length r).map fun steps => ⟨.field n :: steps⟩

end Settle.Path

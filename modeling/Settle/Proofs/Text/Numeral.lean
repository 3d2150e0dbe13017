import Mathlib.Data.List.Induction
import Mathlib.Data.Nat.Digits.Defs
import Mathlib.Tactic.Lemma
import Settle.Text.Decimal

/-!
# Numerals and the numbers they denote

A row of digits denotes a number in a base, where the last digit counts least. The numeral of a
number denotes that number, in base ten and in base sixteen, and has no more digits than it needs.
-/

namespace Settle

@[simp] lemma CodePoint.ofChar_inj {c d : Char} : ofChar c = ofChar d ↔ c = d := by
  refine ⟨fun h => ?_, congrArg ofChar⟩
  have hval : (ofChar c).val = (ofChar d).val := by rw [h]
  exact Char.toNat_inj.mp hval

namespace Text

/-- The number that digits denote in a base, if each has the value given. -/
def number (base : Nat) (value : CodePoint → Nat) (ds : Text) : Nat :=
  Nat.ofDigits base (ds.reverse.map value)

section Number

variable (base : Nat) (value : CodePoint → Nat)

@[simp] lemma number_nil : number base value [] = 0 := rfl

@[simp] lemma number_concat (ds : Text) (d : CodePoint) :
    number base value (ds ++ [d]) = value d + base * number base value ds := by
  simp [number, Nat.ofDigits_cons]

/-- Adding up from the left gives the number. -/
lemma foldl_eq_number (ds : Text) :
    ds.foldl (fun n d => base * n + value d) 0 = number base value ds := by
  induction ds using List.reverseRecOn with
  | nil => rfl
  | append_singleton ds d ih =>
    rw [List.foldl_append, ih, number_concat, Nat.add_comm]
    rfl

lemma number_replicate_append {zero : CodePoint} (hzero : value zero = 0) (k : Nat) (ds : Text) :
    number base value (List.replicate k zero ++ ds) = number base value ds := by
  simp [number, Nat.ofDigits_append, hzero, Nat.ofDigits_replicate_zero]

lemma number_lt {ds : Text} (hbase : 1 < base) (h : ∀ d ∈ ds, value d < base) :
    number base value ds < base ^ ds.length := by
  have hlt := Nat.ofDigits_lt_base_pow_length (l := ds.reverse.map value) hbase (by simpa using h)
  simpa [number] using hlt

end Number

end Text

/-! ### Base ten -/

namespace Decimal

/-- The value of a decimal digit. -/
def digitValue (d : CodePoint) : Nat := d.val - 0x30

lemma value_eq_number (ds : Text) : value ds = Text.number 10 digitValue ds :=
  Text.foldl_eq_number 10 digitValue ds

lemma isDigit_iff {d : CodePoint} : d.isDigit = true ↔ 0x30 ≤ d.val ∧ d.val ≤ 0x39 := by
  have hzero : '0'.toNat = 0x30 := rfl
  have hnine : '9'.toNat = 0x39 := rfl
  simp [CodePoint.isDigit, CodePoint.between, hzero, hnine]

lemma digitValue_lt {d : CodePoint} (h : d.isDigit = true) : digitValue d < 10 := by
  have hle := (isDigit_iff.mp h).2
  rw [digitValue]
  omega

lemma digitValue_digit (n : Nat) : digitValue (digit n) = n % 10 := Nat.add_sub_cancel_left ..

lemma isDigit_digit (n : Nat) : (digit n).isDigit = true := by
  have hval : (digit n).val = 0x30 + n % 10 := rfl
  rw [isDigit_iff, hval]
  omega

lemma ofNat_ne_nil (n : Nat) : ofNat n ≠ [] := by
  rw [ofNat_eq]
  split <;> simp

lemma isDigit_of_mem_ofNat {n : Nat} {d : CodePoint} (h : d ∈ ofNat n) : d.isDigit = true := by
  induction n using Nat.strongRecOn with
  | _ n ih =>
    rw [ofNat_eq] at h
    split at h
    · rw [List.mem_singleton.mp h]
      exact isDigit_digit n
    · rcases List.mem_append.mp h with h | h
      · exact ih (n / 10) (by omega) h
      · rw [List.mem_singleton.mp h]
        exact isDigit_digit n

/-- A numeral denotes the number that it is the numeral of. -/
lemma number_ofNat (n : Nat) : Text.number 10 digitValue (ofNat n) = n := by
  induction n using Nat.strongRecOn with
  | _ n ih =>
    rw [ofNat_eq]
    split
    · rw [← List.nil_append [digit n], Text.number_concat, digitValue_digit, Text.number_nil]
      omega
    · rw [Text.number_concat, digitValue_digit, ih (n / 10) (by omega)]
      omega

lemma ofNat_injective : Function.Injective ofNat :=
  Function.LeftInverse.injective number_ofNat

lemma length_ofNat_le {n k : Nat} (h : n < 10 ^ (k + 1)) : (ofNat n).length ≤ k + 1 := by
  induction k generalizing n with
  | zero =>
    rw [ofNat_eq, if_pos (by simpa using h)]
    simp
  | succ k ih =>
    rw [ofNat_eq]
    split
    · simp
    · have htens : n / 10 < 10 ^ (k + 1) := by
        rw [Nat.div_lt_iff_lt_mul (by decide)]
        rwa [Nat.pow_succ] at h
      simpa using ih htens

end Decimal

/-! ### Base sixteen -/

lemma CodePoint.hexValue_lt (c : CodePoint) : c.hexValue < 16 := by
  have hzero : '0'.toNat = 0x30 := rfl
  have hlower : 'a'.toNat = 0x61 ∧ 'f'.toNat = 0x66 := ⟨rfl, rfl⟩
  have hupper : 'A'.toNat = 0x41 ∧ 'F'.toNat = 0x46 := ⟨rfl, rfl⟩
  simp only [hexValue, Decimal.isDigit_iff, between, Bool.and_eq_true, decide_eq_true_eq]
  split_ifs <;> omega

namespace Text

lemma hexValue_eq_number (ds : Text) : hexValue ds = number 16 CodePoint.hexValue ds :=
  foldl_eq_number 16 CodePoint.hexValue ds

lemma digitChar_hex : ∀ d < 16, (CodePoint.ofChar d.digitChar).isHexDigit = true ∧
    (CodePoint.ofChar d.digitChar).hexValue = d := by
  decide

/-- The last digit of a numeral, and the numeral in front of it. -/
lemma map_toDigits_eq (n : Nat) :
    (Nat.toDigits 16 n).map CodePoint.ofChar
      = (if n < 16 then [] else (Nat.toDigits 16 (n / 16)).map CodePoint.ofChar)
          ++ [CodePoint.ofChar (n % 16).digitChar] := by
  rw [Nat.toDigits_eq_if (by decide)]
  split
  · next hlt => rw [Nat.mod_eq_of_lt hlt, List.map_singleton, List.nil_append]
  · rw [List.map_append, List.map_singleton]

lemma isHexDigit_of_mem_toDigits {n : Nat} {d : CodePoint}
    (h : d ∈ (Nat.toDigits 16 n).map CodePoint.ofChar) : d.isHexDigit = true := by
  induction n using Nat.strongRecOn with
  | _ n ih =>
    rw [map_toDigits_eq, List.mem_append, List.mem_singleton] at h
    rcases h with h | rfl
    · split at h
      · cases h
      · exact ih (n / 16) (by omega) h
    · exact (digitChar_hex _ (Nat.mod_lt n (by decide))).1

lemma number_toDigits (n : Nat) :
    number 16 CodePoint.hexValue ((Nat.toDigits 16 n).map CodePoint.ofChar) = n := by
  induction n using Nat.strongRecOn with
  | _ n ih =>
    rw [map_toDigits_eq, number_concat, (digitChar_hex _ (Nat.mod_lt n (by decide))).2]
    split
    · rw [number_nil]
      omega
    · rw [ih (n / 16) (by omega)]
      omega

lemma hex_eq (width n : Nat) :
    hex width n = List.replicate (width - (Nat.toDigits 16 n).length) (CodePoint.ofChar '0')
      ++ (Nat.toDigits 16 n).map CodePoint.ofChar := by
  rw [hex, List.map_append, List.map_replicate]

lemma isHexDigit_of_mem_hex {width n : Nat} {d : CodePoint} (h : d ∈ hex width n) :
    d.isHexDigit = true := by
  rw [hex_eq, List.mem_append] at h
  rcases h with h | h
  · rw [List.eq_of_mem_replicate h]
    decide
  · exact isHexDigit_of_mem_toDigits h

lemma number_hex (width n : Nat) : number 16 CodePoint.hexValue (hex width n) = n := by
  rw [hex_eq, number_replicate_append _ _ (by decide), number_toDigits]

lemma length_hex {width n : Nat} (hwidth : 0 < width) (h : n < 16 ^ width) :
    (hex width n).length = width := by
  have hle := (Nat.length_toDigits_le_iff (by decide) hwidth).mpr h
  simp [hex, hle]

end Text

end Settle

import Settle.Proofs.Text.Numeral
import Settle.Text.Class.Blank
import Settle.Text.Class.Digit

/-!
# Decimal digits of any script

A decimal digit has a value below ten, for which there is an ASCII digit. No digit is a blank.
-/

namespace Settle

namespace CodePoint

lemma isDecimal_iff {c : CodePoint} :
    c.isDecimal = true ↔ ∃ z ∈ zeros, z ≤ c.val ∧ c.val ≤ z + 9 := by
  rw [isDecimal, decimalValue?, Option.isSome_map, List.find?_isSome]
  simp

/-- The number that a decimal digit stands for. -/
def decimalValue (c : CodePoint) : Nat := c.decimalValue?.getD 0

lemma decimalValue?_eq {c : CodePoint} (h : c.isDecimal = true) :
    c.decimalValue? = some c.decimalValue := by
  obtain ⟨n, hn⟩ := Option.isSome_iff_exists.mp h
  rw [decimalValue, hn, Option.getD_some]

lemma decimalValue_lt {c : CodePoint} (h : c.isDecimal = true) : c.decimalValue < 10 := by
  have hvalue := decimalValue?_eq h
  obtain ⟨z, hz, hsub⟩ := Option.map_eq_some_iff.mp hvalue
  have hrange := List.find?_some hz
  simp only [Bool.and_eq_true, decide_eq_true_eq] at hrange
  omega

/-- The value of an ASCII digit does not depend on other scripts. -/
lemma decimalValue?_of_isDigit {c : CodePoint} (h : c.isDigit = true) :
    c.decimalValue? = some (Decimal.digitValue c) := by
  obtain ⟨hle, hle'⟩ := Decimal.isDigit_iff.mp h
  rw [decimalValue?, zeros, List.find?_cons_of_pos (by simp [hle, hle'])]
  rfl

lemma isDecimal_of_isDigit {c : CodePoint} (h : c.isDigit = true) : c.isDecimal = true := by
  rw [isDecimal, decimalValue?_of_isDigit h, Option.isSome_some]

lemma isDigit_of_isAscii {c : CodePoint} (hascii : c.isAscii = true) (h : c.isDecimal = true) :
    c.isDigit = true := by
  have hzeros : ∀ z ∈ zeros, z = 0x30 ∨ 0x80 ≤ z := by decide
  obtain ⟨z, hz, hle, hle'⟩ := isDecimal_iff.mp h
  have hlt : c.val < 0x80 := by simpa [isAscii] using hascii
  rw [Decimal.isDigit_iff]
  rcases hzeros z hz with rfl | hbig <;> omega

lemma isBlank_iff {c : CodePoint} :
    c.isBlank = true ↔ ∃ r ∈ blankRuns, r.1 ≤ c.val ∧ c.val ≤ r.2 := by
  simp [isBlank]

lemma not_isBlank_of_isDecimal {c : CodePoint} (h : c.isDecimal = true) : ¬ c.isBlank := by
  have hapart : ∀ z ∈ zeros, ∀ r ∈ blankRuns, z + 9 < r.1 ∨ r.2 < z := by decide
  intro hblank
  obtain ⟨z, hz, hzle, hle⟩ := isDecimal_iff.mp h
  obtain ⟨r, hr, hrle, hler⟩ := isBlank_iff.mp hblank
  rcases hapart z hz r hr with hlt | hlt <;> omega

lemma isBlank_of_isAsciiBlank {c : CodePoint} (h : c.isAsciiBlank = true) : c.isBlank = true := by
  have htab : '\t'.toNat = 0x9 := rfl
  have hreturn : '\r'.toNat = 0xd := rfl
  simp only [isAsciiBlank, between, htab, hreturn, Bool.or_eq_true, Bool.and_eq_true,
    decide_eq_true_eq] at h
  rw [isBlank_iff]
  rcases h with ⟨hle, hle'⟩ | rfl
  · exact ⟨(0x9, 0xd), by decide, hle, hle'⟩
  · exact ⟨(0x1c, 0x20), by decide, by decide, by decide⟩

end CodePoint

end Settle

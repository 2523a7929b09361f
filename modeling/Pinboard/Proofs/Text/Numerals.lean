import Mathlib.Tactic
import Pinboard.Text.Blank
import Pinboard.Text.Number

/-!
# Digits among the characters

A decimal digit has a value below ten. No blank is a digit of any kind or a letter, and of the
characters that come before the scripts with digits of their own only the ASCII digits are digits.
-/
namespace Pinboard.Text

variable {c : Char}

lemma decimalValue?_eq_none_iff :
    decimalValue? c = none ↔ ∀ z ∈ decimalZeros, c.toNat < z ∨ z + 9 < c.toNat := by
  simp only [decimalValue?, Option.map_eq_none_iff, List.find?_eq_none, Bool.and_eq_true,
    decide_eq_true_eq, not_and, not_le]
  exact forall₂_congr fun z _ => by omega

lemma decimalValue?_lt {d : Nat} (h : decimalValue? c = some d) : d < 10 := by
  obtain ⟨z, hz, rfl⟩ := Option.map_eq_some_iff.mp h
  have hrun := List.find?_some hz
  simp only [Bool.and_eq_true, decide_eq_true_eq] at hrun
  omega

/-- The first run of digits is that of ASCII. -/
lemma decimalValue?_ascii (h : c.isDigit = true) : decimalValue? c = some (c.toNat - 48) := by
  have hrange : 48 ≤ c.toNat ∧ c.toNat ≤ 57 := Char.isDigit_iff_toNat.mp h
  rw [decimalValue?, decimalZeros, List.find?_cons_of_pos (by simpa using hrange)]
  rfl

/-- The second run of digits is the Arabic one. -/
lemma decimalValue?_of_lt (hlow : c.toNat < 0x660) (h : c.isDigit = false) :
    decimalValue? c = none := by
  have hzeros : ∀ z ∈ decimalZeros, z = 48 ∨ 0x660 ≤ z := by decide
  have hrange : ¬(48 ≤ c.toNat ∧ c.toNat ≤ 57) := fun hrange =>
    Bool.eq_false_iff.mp h (Char.isDigit_iff_toNat.mpr hrange)
  rw [decimalValue?_eq_none_iff]
  intro z hz
  have := hzeros z hz
  omega

lemma decimalValue?_blank (h : isBlank c = true) : decimalValue? c = none := by
  have hapart : ∀ r ∈ blankRanges, ∀ z ∈ decimalZeros, r.2 < z ∨ z + 9 < r.1 := by decide
  obtain ⟨r, hr, hlow, hhigh⟩ := Ranges.has_iff.mp h
  rw [decimalValue?_eq_none_iff]
  intro z hz
  have := hapart r hr z hz
  omega

lemma isDigit_blank (h : isBlank c = true) : isDigit c = false := by
  have hapart : ∀ r ∈ blankRanges, ∀ r' ∈ otherDigitRanges, r.2 < r'.1 ∨ r'.2 < r.1 := by decide
  obtain ⟨r, hr, hlow, hhigh⟩ := Ranges.has_iff.mp h
  rw [isDigit, isDecimal, decimalValue?_blank h, Bool.eq_false_iff]
  intro hother
  obtain ⟨r', hr', hlow', hhigh'⟩ := Ranges.has_iff.mp (by simpa using hother)
  have := hapart r hr r' hr'
  omega

lemma isBlank_of_isDigit (h : c.isDigit = true) : isBlank c = false := by
  rw [Bool.eq_false_iff]
  intro hblank
  have hnone := decimalValue?_blank hblank
  rw [decimalValue?_ascii h] at hnone
  cases hnone

/-- No blank stands between the capital A and the small z. -/
lemma isBlank_of_letter (hlow : 65 ≤ c.toNat) (hhigh : c.toNat ≤ 122) : isBlank c = false := by
  have hapart : ∀ r ∈ blankRanges, r.2 < 65 ∨ 122 < r.1 := by decide
  rw [Bool.eq_false_iff]
  intro hblank
  obtain ⟨r, hr, hlow', hhigh'⟩ := Ranges.has_iff.mp hblank
  have := hapart r hr
  omega

lemma isDecimal_eq_false : isDecimal c = false ↔ decimalValue? c = none := by
  simp [isDecimal]

end Pinboard.Text

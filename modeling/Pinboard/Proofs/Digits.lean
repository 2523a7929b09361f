import Mathlib.Tactic
import Pinboard.Number.Binary64
import Pinboard.Number.Decimal

/-!
# Digits of whole numbers

A number that is filled with zeros to a width has one digit for each place, and the digits of a
number give it back.
-/
namespace Pinboard.Number

/-- `n` in a base, in at least `width` digits. -/
def filled (base width n : Nat) : List Char :=
  List.replicate (width - (Nat.toDigits base n).length) '0' ++ Nat.toDigits base n

lemma padded_eq (width n : Nat) : padded width n = filled 10 width n := rfl

lemma hexDigits_eq (width n : Nat) : hexDigits width n = filled 16 width n := rfl

lemma filled_one {base n : Nat} (h : n < base) : filled base 1 n = [n.digitChar] := by
  simp [filled, Nat.toDigits_of_lt_base h]

/-- The last place holds the remainder. -/
lemma filled_succ {base : Nat} (hbase : 1 < base) (width n : Nat) :
    filled base (width + 2) n = filled base (width + 1) (n / base) ++ [(n % base).digitChar] := by
  by_cases hn : n < base
  · rw [filled, Nat.toDigits_of_lt_base hn, filled, Nat.div_eq_of_lt hn, Nat.toDigits_zero,
      Nat.mod_eq_of_lt hn]
    simp [List.replicate_succ']
  · rw [filled, filled, Nat.toDigits_of_base_le hbase (by omega), List.length_append,
      List.length_singleton, ← List.append_assoc]
    congr 3
    omega

lemma filled_two {base n : Nat} (hbase : 1 < base) (hn : n < base ^ 2) :
    filled base 2 n = [(n / base).digitChar, (n % base).digitChar] := by
  rw [filled_succ hbase, filled_one (Nat.div_lt_of_lt_mul (by rwa [← sq]))]
  rfl

lemma filled_four {base n : Nat} (hbase : 1 < base) (hn : n < base ^ 4) :
    filled base 4 n = [(n / base ^ 3).digitChar, (n / base ^ 2 % base).digitChar,
      (n / base % base).digitChar, (n % base).digitChar] := by
  have hquotient : n / base / base < base ^ 2 := by
    rw [Nat.div_div_eq_div_mul]
    exact Nat.div_lt_of_lt_mul (hn.trans_eq (by ring))
  rw [filled_succ hbase, filled_succ hbase, filled_two hbase hquotient]
  simp [Nat.div_div_eq_div_mul, pow_succ]

lemma length_filled {base : Nat} (hbase : 1 < base) (width : Nat) {n : Nat}
    (hn : n < base ^ (width + 1)) : (filled base (width + 1) n).length = width + 1 := by
  induction width generalizing n with
  | zero => rw [filled_one (by simpa using hn)]; rfl
  | succ width ih =>
    have hquotient : n / base < base ^ (width + 1) :=
      Nat.div_lt_of_lt_mul (hn.trans_eq (by ring))
    rw [filled_succ hbase, List.length_append, ih hquotient]
    rfl

lemma digits_ne_nil (n : Nat) : digits n ≠ [] := Nat.toDigits_ne_nil

lemma isDigit_of_mem_digits {n : Nat} {c : Char} (h : c ∈ digits n) : c.isDigit = true :=
  Nat.isDigit_of_mem_toDigits (by decide) (by decide) h

lemma isDigit_of_mem_filled {width n : Nat} {c : Char} (h : c ∈ filled 10 width n) :
    c.isDigit = true := by
  rcases List.mem_append.mp h with hzero | hdigit
  · rw [List.eq_of_mem_replicate hzero]; rfl
  · exact isDigit_of_mem_digits hdigit

lemma ofDigitValues_map (cs : List Char) :
    ofDigitValues (cs.map fun c => c.toNat - 48) = Nat.ofDigitChars 10 cs 0 := by
  rw [ofDigitValues, List.foldl_map, Nat.ofDigitChars_eq_foldl]
  rfl

/-- Zeros in front do not change the number. -/
lemma ofDigitValues_filled (width n : Nat) :
    ofDigitValues ((filled 10 width n).map fun c => c.toNat - 48) = n := by
  rw [ofDigitValues_map, filled, Nat.ofDigitChars_append, Nat.ofDigitChars_replicate_zero,
    Nat.mul_zero, Nat.ofDigitChars_ten_toDigits]

lemma ofDigitValues_digits (n : Nat) :
    ofDigitValues ((digits n).map fun c => c.toNat - 48) = n := by
  have h := ofDigitValues_filled 0 n
  rwa [filled, Nat.zero_sub, List.replicate_zero, List.nil_append] at h

/-- No zero stands in front of another digit. -/
lemma digits_eq_cons {n : Nat} (hn : n ≠ 0) :
    ∃ d cs, digits n = Nat.digitChar d :: cs ∧ d ≠ 0 ∧ d < 10 := by
  induction n using Nat.strongRecOn with
  | ind n ih =>
    by_cases hsmall : n < 10
    · exact ⟨n, [], Nat.toDigits_of_lt_base hsmall, hn, hsmall⟩
    · obtain ⟨d, cs, hquotient, hd⟩ := ih (n / 10) (by omega) (by omega)
      rw [digits] at hquotient
      refine ⟨d, cs ++ [(n % 10).digitChar], ?_, hd⟩
      rw [digits, Nat.toDigits_of_base_le (by decide) (by omega), hquotient, List.cons_append]

end Pinboard.Number

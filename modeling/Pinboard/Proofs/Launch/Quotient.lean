import Pinboard.Proofs.Launch.Statistics
import Pinboard.Proofs.Number.Rounding

/-!
# Rounded quotients

The quotient of an average is rounded twice, to the binary format and then to a whole number. Both
roundings keep to whole numbers that bound the quotient. For a total below `2 ^ 52` the first one
never makes a difference to the second, and the result is within half a unit of the quotient.
-/
namespace Pinboard

namespace Launch

open Number Binary64

variable {n d : Nat}

/-- A quotient of usual size is rounded twice, to the format and then to a whole number. -/
lemma roundedQuotient?_eq (hd : 0 < d) (hlow : d ≤ 2 * n) (hhigh : n < 2 ^ 53 * d) :
    ∃ s, roundedQuotient? n d =
        some ((nearestEven (nearestEven (n * 2 ^ s) d) (2 ^ s) : Nat) : Int) ∧
      2 ^ 52 * d ≤ n * 2 ^ s := by
  obtain ⟨s, hratio, hsize⟩ := ofRatio_eq_pack hd hlow hhigh
  obtain ⟨m, q', hpack, hwhole⟩ :=
    pack_nearestEven (q := -(s : Int)) (by omega) (nearestEven (n * 2 ^ s) d)
  have hdown : (-(-(s : Int))).toNat = s := by omega
  refine ⟨s, ?_, hsize⟩
  rw [roundedQuotient?_of_ofRatio hd (hratio.trans hpack), hwhole, hdown]

/-- A whole number that a quotient is rounded to. -/
structure IsRounded (n d v : Nat) : Prop where
  least : ∀ low, low * d ≤ n → low ≤ v
  most : ∀ high, n ≤ high * d → v ≤ high
  near : n < 2 ^ 52 → 2 * (v * d) ≤ 2 * n + d ∧ 2 * n ≤ 2 * (v * d) + d

/-- Two roundings err by less than half a unit and half a step together, and a step is less than a
unit of what the divisor measures. -/
lemma near_of_nearestEven {v M P : Nat} (hd : 0 < d) (hP : 0 < P) (hstep : d < P)
    (hM : M = nearestEven (n * P) d) (hv : v = nearestEven M P) :
    2 * (v * d) ≤ 2 * n + d ∧ 2 * n ≤ 2 * (v * d) + d := by
  obtain ⟨hMle, hleM⟩ := nearestEven_within (n * P) hd
  obtain ⟨hvle, hlev⟩ := nearestEven_within M hP
  rw [← hM] at hMle hleM
  rw [← hv] at hvle hlev
  constructor
  · refine Nat.lt_succ_iff.mp (Nat.lt_of_mul_lt_mul_right (a := P) ?_)
    calc 2 * (v * d) * P = d * (2 * (v * P)) := by ring
      _ ≤ d * (2 * M + P) := Nat.mul_le_mul_left d hvle
      _ = 2 * (M * d) + d * P := by ring
      _ ≤ 2 * (n * P) + d + d * P := Nat.add_le_add_right hMle _
      _ < 2 * (n * P) + P + d * P := by omega
      _ = (2 * n + d + 1) * P := by ring
  · refine Nat.lt_succ_iff.mp (Nat.lt_of_mul_lt_mul_right (a := P) ?_)
    calc 2 * n * P = 2 * (n * P) := by ring
      _ ≤ 2 * (M * d) + d := hleM
      _ = d * (2 * M) + d := by ring
      _ ≤ d * (2 * (v * P) + P) + d := Nat.add_le_add_right (Nat.mul_le_mul_left d hlev) _
      _ < d * (2 * (v * P) + P) + P := by omega
      _ = (2 * (v * d) + d + 1) * P := by ring

lemma exists_isRounded (hd : 0 < d) (hlow : d ≤ 2 * n) (hhigh : n < 2 ^ 53 * d) :
    ∃ v : Nat, roundedQuotient? n d = some (v : Int) ∧ IsRounded n d v := by
  obtain ⟨s, hs, hsize⟩ := roundedQuotient?_eq hd hlow hhigh
  have hpos : 0 < 2 ^ s := Nat.two_pow_pos s
  obtain ⟨M, hM⟩ : ∃ M, M = nearestEven (n * 2 ^ s) d := ⟨_, rfl⟩
  rw [← hM] at hs
  refine ⟨nearestEven M (2 ^ s), hs, ⟨fun low h => ?_, fun high h => ?_, fun hsmall => ?_⟩⟩
  · refine le_nearestEven hpos ?_
    rw [hM]
    refine le_nearestEven hd ?_
    calc low * 2 ^ s * d = low * d * 2 ^ s := by ring
      _ ≤ n * 2 ^ s := Nat.mul_le_mul_right _ h
  · refine nearestEven_le ?_
    rw [hM]
    refine nearestEven_le ?_
    calc n * 2 ^ s ≤ high * d * 2 ^ s := Nat.mul_le_mul_right _ h
      _ = high * 2 ^ s * d := by ring
  · have hstep : d < 2 ^ s := Nat.lt_of_mul_lt_mul_left (a := 2 ^ 52) <|
      hsize.trans_lt (Nat.mul_lt_mul_of_pos_right hsmall hpos)
    exact near_of_nearestEven hd hpos hstep hM rfl

end Launch

end Pinboard

import Mathlib.Tactic
import Pinboard.Number.Binary64

/-!
# Rounding to the binary format

Rounding keeps to the whole numbers that bound a quotient and does not see a common factor. Below
`2 ^ 53` every whole number is a value of the format, and sums and products of whole numbers that
stay below it are exact. Sums and products of values that are not negative are numbers.
-/
namespace Pinboard.Number

variable {n d k : Nat}

lemma le_nearestEven (hd : 0 < d) (h : k * d ≤ n) : k ≤ nearestEven n d := by
  have hq : k ≤ n / d := (Nat.le_div_iff_mul_le hd).mpr h
  simp only [nearestEven]
  split_ifs <;> omega

/-- A common factor makes no difference. -/
lemma nearestEven_scale (hk : 0 < k) (n d : Nat) :
    nearestEven (n * k) (d * k) = nearestEven n d := by
  simp only [nearestEven, Nat.mul_div_mul_right _ _ hk, Nat.mul_mod_mul_right, ← Nat.mul_assoc]
  simp only [Nat.mul_lt_mul_right hk]

namespace Binary64

/-- The power of two that the function finds is at most the quotient. -/
lemma floorLog_spec (hn : 0 < n) (d : Nat) :
    d * 2 ^ (floorLog n d).toNat ≤ n * 2 ^ (-floorLog n d).toNat := by
  simp only [floorLog]
  split_ifs with hguess
  · exact hguess
  have hlow : 2 ^ Nat.log2 n ≤ n := Nat.log2_self_le (by omega)
  have hhigh : d < 2 ^ (Nat.log2 d + 1) := Nat.lt_log2_self
  rcases Nat.lt_or_ge (Nat.log2 d) (Nat.log2 n) with hlt | hge
  · have hup : ((Nat.log2 n : Int) - Nat.log2 d - 1).toNat = Nat.log2 n - (Nat.log2 d + 1) := by
      omega
    have hdown : (-((Nat.log2 n : Int) - Nat.log2 d - 1)).toNat = 0 := by omega
    rw [hup, hdown, Nat.pow_zero, Nat.mul_one]
    calc d * 2 ^ (Nat.log2 n - (Nat.log2 d + 1))
        ≤ 2 ^ (Nat.log2 d + 1) * 2 ^ (Nat.log2 n - (Nat.log2 d + 1)) :=
          Nat.mul_le_mul_right _ hhigh.le
      _ = 2 ^ Nat.log2 n := by rw [← Nat.pow_add]; congr 1; omega
      _ ≤ n := hlow
  · have hup : ((Nat.log2 n : Int) - Nat.log2 d - 1).toNat = 0 := by omega
    have hdown : (-((Nat.log2 n : Int) - Nat.log2 d - 1)).toNat =
        Nat.log2 d + 1 - Nat.log2 n := by omega
    rw [hup, hdown, Nat.pow_zero, Nat.mul_one]
    calc d ≤ 2 ^ (Nat.log2 d + 1) := hhigh.le
      _ = 2 ^ Nat.log2 n * 2 ^ (Nat.log2 d + 1 - Nat.log2 n) := by
          rw [← Nat.pow_add]; congr 1; omega
      _ ≤ n * 2 ^ (Nat.log2 d + 1 - Nat.log2 n) := Nat.mul_le_mul_right _ hlow

lemma floorLog_bounds (hd : 0 < d) (hlow : d ≤ 2 * n) (hhigh : n < 2 ^ 53 * d) :
    -2 ≤ floorLog n d ∧ floorLog n d ≤ 52 := by
  have hn : 0 < n := by omega
  constructor
  · have hlog : Nat.log2 d < Nat.log2 n + 2 := by
      rw [Nat.log2_lt (by omega)]
      have := Nat.lt_log2_self (n := n)
      rw [Nat.pow_succ] at this ⊢
      omega
    simp only [floorLog]
    split_ifs <;> omega
  · by_contra hbig
    have hspec := floorLog_spec hn d
    have hdown : (-floorLog n d).toNat = 0 := by omega
    have hpow : 2 ^ 53 ≤ 2 ^ (floorLog n d).toNat := Nat.pow_le_pow_right (by decide) (by omega)
    rw [hdown, Nat.pow_zero, Nat.mul_one] at hspec
    have hmul := Nat.mul_le_mul_left d hpow
    rw [Nat.mul_comm] at hhigh
    omega

/-- A carry out of the significand makes no difference to the nearest whole number. -/
lemma pack_nearestEven {q : Int} (hq : q ≤ 0) (m : Nat) :
    ∃ m' q', pack false m q = .finite false m' q' ∧
      nearestEven (m' * 2 ^ q'.toNat) (2 ^ (-q').toNat) = nearestEven m (2 ^ (-q).toNat) := by
  have hup : q.toNat = 0 := by omega
  by_cases hcarry : m = 2 ^ 53
  · refine ⟨2 ^ 52, q + 1, ?_, ?_⟩
    · rw [pack, if_pos hcarry]
      exact if_neg (by omega)
    rcases eq_or_lt_of_le hq with rfl | hneg
    · rw [hcarry]
      rfl
    have hup' : (q + 1).toNat = 0 := by omega
    have hdown : (-q).toNat = (-(q + 1)).toNat + 1 := by omega
    rw [hcarry, hup', hdown, Nat.pow_zero, Nat.mul_one, Nat.pow_succ 2 (-(q + 1)).toNat,
      ← nearestEven_scale (k := 2) (by decide) (2 ^ 52)]
  · refine ⟨m, q, ?_, by rw [hup, Nat.pow_zero, Nat.mul_one]⟩
    rw [pack, if_neg hcarry]
    exact if_neg (by omega)

/-- A quotient of usual size is rounded to a multiple of a power of two that is at most one. -/
lemma ofRatio_eq_pack (hd : 0 < d) (hlow : d ≤ 2 * n) (hhigh : n < 2 ^ 53 * d) :
    ∃ s : Nat, ofRatio false n d = pack false (nearestEven (n * 2 ^ s) d) (-s) ∧
      2 ^ 52 * d ≤ n * 2 ^ s := by
  have hn : 0 < n := by omega
  obtain ⟨hbelow, habove⟩ := floorLog_bounds hd hlow hhigh
  obtain ⟨s, hs⟩ : ∃ s : Nat, exponentFor (floorLog n d) = -s :=
    ⟨(-exponentFor (floorLog n d)).toNat, by rw [exponentFor]; omega⟩
  have hlog : floorLog n d = 52 - s := by
    rw [exponentFor] at hs
    omega
  have hup : (-(s : Int)).toNat = 0 := by omega
  have hdown : (-(-(s : Int))).toNat = s := by omega
  refine ⟨s, ?_, ?_⟩
  · rw [ofRatio, if_neg hn.ne', hs]
    simp only [hup, hdown, Nat.pow_zero, Nat.mul_one]
  · have hspec := floorLog_spec hn d
    rw [hlog] at hspec
    rcases Nat.le_total s 52 with hle | hge
    · have hzero : (-(52 - (s : Int))).toNat = 0 := by omega
      have hsplit : 2 ^ 52 = 2 ^ (52 - (s : Int)).toNat * 2 ^ s := by
        rw [← Nat.pow_add]; congr 1; omega
      rw [hzero, Nat.pow_zero, Nat.mul_one] at hspec
      calc 2 ^ 52 * d = d * 2 ^ (52 - (s : Int)).toNat * 2 ^ s := by rw [hsplit]; ring
        _ ≤ n * 2 ^ s := Nat.mul_le_mul_right _ hspec
    · have hzero : (52 - (s : Int)).toNat = 0 := by omega
      have hsplit : 2 ^ s = 2 ^ (-(52 - (s : Int))).toNat * 2 ^ 52 := by
        rw [← Nat.pow_add]; congr 1; omega
      rw [hzero, Nat.pow_zero, Nat.mul_one] at hspec
      calc 2 ^ 52 * d ≤ 2 ^ 52 * (n * 2 ^ (-(52 - (s : Int))).toNat) := Nat.mul_le_mul_left _ hspec
        _ = n * 2 ^ s := by rw [hsplit]; ring

/-! ## Exact whole numbers -/

lemma log2_scale (hn : n ≠ 0) (j : Nat) : Nat.log2 (n * 2 ^ j) = Nat.log2 n + j := by
  rw [Nat.log2_eq_iff (Nat.mul_ne_zero hn (Nat.two_pow_pos j).ne')]
  have hlow : 2 ^ Nat.log2 n ≤ n := Nat.log2_self_le hn
  have hhigh : n < 2 ^ (Nat.log2 n + 1) := Nat.lt_log2_self
  constructor
  · rw [Nat.pow_add]
    exact Nat.mul_le_mul_right _ hlow
  · rw [Nat.add_right_comm, Nat.pow_add]
    exact Nat.mul_lt_mul_of_pos_right hhigh (Nat.two_pow_pos j)

lemma floorLog_scale (hn : n ≠ 0) (hd : d ≠ 0) (j : Nat) :
    floorLog (n * 2 ^ j) (d * 2 ^ j) = floorLog n d := by
  have hguess : ((Nat.log2 n + j : Nat) : Int) - ((Nat.log2 d + j : Nat) : Int) =
      (Nat.log2 n : Int) - Nat.log2 d := by omega
  simp only [floorLog, log2_scale hn, log2_scale hd, hguess]
  simp only [Nat.mul_right_comm _ (2 ^ j), Nat.mul_le_mul_right_iff (Nat.two_pow_pos j)]

/-- A common power of two makes no difference. -/
lemma ofRatio_scale (negative : Bool) (n : Nat) (hd : d ≠ 0) (j : Nat) :
    ofRatio negative (n * 2 ^ j) (d * 2 ^ j) = ofRatio negative n d := by
  by_cases hn : n = 0
  · rw [hn, Nat.zero_mul, ofRatio, if_pos rfl, ofRatio, if_pos rfl]
  · have hscaled : n * 2 ^ j ≠ 0 := Nat.mul_ne_zero hn (Nat.two_pow_pos j).ne'
    rw [ofRatio, if_neg hscaled, ofRatio, if_neg hn, floorLog_scale hn hd]
    simp only [Nat.mul_right_comm _ (2 ^ j), nearestEven_scale (Nat.two_pow_pos j)]

/-- A value that is a whole number. -/
def Is (x : Binary64) (n : Nat) : Prop := ∃ j : Nat, x = .finite false (n * 2 ^ j) (-j)

lemma is_ofNat (hn : n < 2 ^ 53) : Is (ofNat n) n := by
  by_cases hzero : n = 0
  · obtain ⟨j, hj⟩ : ∃ j, j = 1074 := ⟨_, rfl⟩
    refine ⟨j, ?_⟩
    rw [ofNat, ofRatio, if_pos hzero, hzero, Nat.zero_mul, hj]
    rfl
  have hlog : Nat.log2 n < 53 := (Nat.log2_lt hzero).mpr hn
  have hfloor : floorLog n 1 = Nat.log2 n := by
    have hone : Nat.log2 1 = 0 := rfl
    have hlow : 2 ^ Nat.log2 n ≤ n := Nat.log2_self_le hzero
    simp [floorLog, hone, hlow]
  obtain ⟨j, hj⟩ : ∃ j, j = 52 - Nat.log2 n := ⟨_, rfl⟩
  have hexponent : exponentFor (floorLog n 1) = -(j : Int) := by
    rw [hfloor, exponentFor]
    omega
  have hbound : n * 2 ^ j < 2 ^ 53 := by
    calc n * 2 ^ j < 2 ^ (Nat.log2 n + 1) * 2 ^ j :=
          Nat.mul_lt_mul_of_pos_right Nat.lt_log2_self (Nat.two_pow_pos j)
      _ = 2 ^ 53 := by rw [← Nat.pow_add]; congr 1; omega
  have hup : (-(j : Int)).toNat = 0 := by omega
  have hdown : (-(-(j : Int))).toNat = j := by omega
  refine ⟨j, ?_⟩
  rw [ofNat, ofRatio, if_neg hzero, hexponent]
  simp only [hup, hdown, Nat.pow_zero, Nat.mul_one, nearestEven_one]
  rw [pack, if_neg hbound.ne]
  exact if_neg (by omega)

lemma ofScaled_eq_ofNat {i : Int} {j : Nat} (h : i = (n * 2 ^ j : Nat)) :
    ofScaled false i (-j) = ofNat n := by
  have hsign : ¬((n * 2 ^ j : Nat) : Int) < 0 := by omega
  subst h
  rw [ofScaled, ofNat]
  split_ifs with hzero
  · have hn : n = 0 := by
      have hmul : n * 2 ^ j = 0 := by exact_mod_cast hzero
      exact (Nat.mul_eq_zero.mp hmul).resolve_right (Nat.two_pow_pos j).ne'
    rw [hn]
    rfl
  · have hup : (-(j : Int)).toNat = 0 := by omega
    have hdown : (-(-(j : Int))).toNat = j := by omega
    rw [hup, hdown, Nat.pow_zero, Nat.mul_one, Int.natAbs_natCast, decide_eq_false hsign]
    simpa using ofRatio_scale false n Nat.one_ne_zero j

lemma two_pow_mul_sub (h : k ≤ n) : 2 ^ k * 2 ^ (n - k) = 2 ^ n := by
  rw [Nat.mul_comm, Nat.pow_sub_mul_pow 2 h]

section Operations

variable {x y : Binary64} {m : Nat}

lemma Is.mul (hx : Is x m) (hy : Is y n) : x.mul y = ofNat (m * n) := by
  obtain ⟨i, rfl⟩ := hx
  obtain ⟨j, rfl⟩ := hy
  have hexponent : -(i : Int) + -(j : Int) = -((i + j : Nat) : Int) := by omega
  rw [Binary64.mul, hexponent]
  refine ofScaled_eq_ofNat ?_
  rw [signed, if_neg (by decide), Nat.pow_add, Nat.mul_mul_mul_comm]

lemma Is.add (hx : Is x m) (hy : Is y n) : x.add y = ofNat (m + n) := by
  obtain ⟨i, rfl⟩ := hx
  obtain ⟨j, rfl⟩ := hy
  have hlow : min (-(i : Int)) (-(j : Int)) = -((max i j : Nat) : Int) := by omega
  have hi : (-(i : Int) - -((max i j : Nat) : Int)).toNat = max i j - i := by omega
  have hj : (-(j : Int) - -((max i j : Nat) : Int)).toNat = max i j - j := by omega
  simp only [Binary64.add, hlow, hi, hj]
  refine ofScaled_eq_ofNat ?_
  have hm : m * 2 ^ i * 2 ^ (max i j - i) = m * 2 ^ max i j := by
    rw [Nat.mul_assoc, two_pow_mul_sub (Nat.le_max_left i j)]
  have hn : n * 2 ^ j * 2 ^ (max i j - j) = n * 2 ^ max i j := by
    rw [Nat.mul_assoc, two_pow_mul_sub (Nat.le_max_right i j)]
  simp only [signed, Bool.false_eq_true, if_false]
  rw [Nat.add_mul, ← hm, ← hn]
  push_cast
  rfl

/-- The divisor may have a fraction. -/
lemma Is.div (hx : Is x n) (hm : m ≠ 0) (k : Nat) :
    x.div (.finite false m (-k)) = ofRatio false (n * 2 ^ k) m := by
  obtain ⟨j, rfl⟩ := hx
  have hup : (-(j : Int) - -(k : Int)).toNat = max j k - j := by omega
  have hdown : (-(k : Int) - -(j : Int)).toNat = max j k - k := by omega
  rw [Binary64.div, if_neg hm, hup, hdown, Nat.mul_assoc, two_pow_mul_sub (Nat.le_max_left j k),
    ← two_pow_mul_sub (Nat.le_max_right j k), ← Nat.mul_assoc]
  exact ofRatio_scale false (n * 2 ^ k) hm (max j k - k)

end Operations

/-- A row of digits is read exactly. -/
lemma ofDecimal_zero (hn : n < 2 ^ 53) : ofDecimal false n 0 = ofNat n := by
  by_cases hzero : n = 0
  · rw [hzero]
    rfl
  · have hlog : Nat.log2 n < 53 := (Nat.log2_lt hzero).mpr hn
    rw [ofDecimal, if_neg hzero]
    simp only [Int.add_zero]
    rw [if_neg (by omega), if_neg (by omega)]
    simp [ofNat]

/-! ## Whole parts -/

/-- The whole part of a value that is not negative. -/
def wholePart? : Binary64 → Option Nat
  | .finite false m q => some (m * 2 ^ q.toNat / 2 ^ (-q).toNat)
  | _ => none

lemma wholePart?_pack {q : Int} (hq : q ≤ 0) (m : Nat) :
    wholePart? (pack false m q) = some (m / 2 ^ (-q).toNat) := by
  by_cases hcarry : m = 2 ^ 53
  · have hpack : pack false m q = .finite false (2 ^ 52) (q + 1) := by
      rw [pack, if_pos hcarry]
      exact if_neg (by omega)
    rw [hpack, wholePart?, hcarry]
    rcases eq_or_lt_of_le hq with rfl | hneg
    · rfl
    · have hup : (q + 1).toNat = 0 := by omega
      have hdown : (-q).toNat = (-(q + 1)).toNat + 1 := by omega
      rw [hup, hdown, Nat.pow_zero, Nat.mul_one, Nat.pow_succ 2 (-(q + 1)).toNat,
        ← Nat.mul_div_mul_right (2 ^ 52) _ (show 0 < 2 by decide)]
  · have hup : q.toNat = 0 := by omega
    have hpack : pack false m q = .finite false m q := by
      rw [pack, if_neg hcarry]
      exact if_neg (by omega)
    rw [hpack, wholePart?, hup, Nat.pow_zero, Nat.mul_one]

/-- Rounding to the format does not lift two thirds to the next whole number. -/
lemma wholePart?_twoThirds (h : n < 2 ^ 51 * 3) :
    wholePart? (ofRatio false (2 * n) 3) = some (2 * n / 3) := by
  rcases Nat.eq_zero_or_pos n with rfl | hn
  · rw [Nat.mul_zero, ofRatio, if_pos rfl, zero, wholePart?, Nat.zero_mul, Nat.zero_div]
  obtain ⟨s, hratio, hsize⟩ :=
    ofRatio_eq_pack (n := 2 * n) (d := 3) (by decide) (by omega) (by omega)
  obtain ⟨M, hM⟩ : ∃ M, M = nearestEven (2 * n * 2 ^ s) 3 := ⟨_, rfl⟩
  obtain ⟨k, hk⟩ : ∃ k, k = 2 * n / 3 := ⟨_, rfl⟩
  have hdown : (-(-(s : Int))).toNat = s := by omega
  rw [hratio, wholePart?_pack (by omega), hdown, ← hM, ← hk]
  have hs : 2 ≤ 2 ^ s := by
    have hpos : s ≠ 0 := fun hzero => by
      rw [hzero] at hsize
      omega
    calc 2 = 2 ^ 1 := rfl
      _ ≤ 2 ^ s := Nat.pow_le_pow_right (by decide) (by omega)
  have hlow : k * 2 ^ s ≤ M := by
    rw [hM]
    refine le_nearestEven (by decide) ?_
    calc k * 2 ^ s * 3 = k * 3 * 2 ^ s := by ring
      _ ≤ 2 * n * 2 ^ s := Nat.mul_le_mul_right _ (by omega)
  have hhigh : M < (k + 1) * 2 ^ s := by
    have hwithin := (nearestEven_within (2 * n * 2 ^ s) (show 0 < 3 by decide)).1
    rw [← hM] at hwithin
    have hthird : 2 * n * 2 ^ s ≤ (3 * k + 2) * 2 ^ s := Nat.mul_le_mul_right _ (by omega)
    have hexpand : (3 * k + 2) * 2 ^ s = 3 * (k * 2 ^ s) + 2 * 2 ^ s := by ring
    rw [Nat.add_mul, Nat.one_mul]
    omega
  rw [Nat.div_eq_of_lt_le hlow hhigh]

/-- The quotient by one and a half, and its whole part. -/
lemma wholePart?_threeHalves (h : n < 2 ^ 51 * 3) :
    wholePart? ((ofNat n).div (ofDecimal false 15 (-1))) = some (2 * n / 3) := by
  have hdivisor : ofDecimal false 15 (-1) = .finite false (3 * 2 ^ 51) (-(52 : Nat)) := by rfl
  have hscale : n * 2 ^ 52 = 2 * n * 2 ^ 51 := by ring
  rw [hdivisor, (is_ofNat (by omega)).div (by decide), hscale, ofRatio_scale false _ (by decide)]
  exact wholePart?_twoThirds h

/-! ## Values that are not negative -/

/-- A number that is not negative, or positive infinity. -/
def Unsigned (x : Binary64) : Prop := (∃ m q, x = .finite false m q) ∨ x = .infinite false

section Unsigned

variable {x y : Binary64}

lemma Unsigned.ne_nan (h : Unsigned x) : x ≠ .nan := by
  rcases h with ⟨m, q, rfl⟩ | rfl <;> simp

lemma unsigned_ofRatio (n d : Nat) : Unsigned (ofRatio false n d) := by
  rw [ofRatio]
  split_ifs
  · exact .inl ⟨0, -1074, rfl⟩
  · simp only [pack]
    split_ifs
    all_goals first | exact .inr rfl | exact .inl ⟨_, _, rfl⟩

lemma unsigned_ofDecimal (n : Nat) (power : Int) : Unsigned (ofDecimal false n power) := by
  simp only [ofDecimal]
  split_ifs
  · exact .inl ⟨0, -1074, rfl⟩
  · exact .inr rfl
  · exact .inl ⟨0, -1074, rfl⟩
  · exact unsigned_ofRatio _ _

lemma unsigned_ofScaled {i : Int} (hi : 0 ≤ i) (q : Int) : Unsigned (ofScaled false i q) := by
  rw [ofScaled]
  split_ifs
  · exact .inl ⟨0, -1074, rfl⟩
  · rw [decide_eq_false (by omega)]
    exact unsigned_ofRatio _ _

lemma Unsigned.add (hx : Unsigned x) (hy : Unsigned y) : Unsigned (x.add y) := by
  rcases hx with ⟨m, q, rfl⟩ | rfl <;> rcases hy with ⟨n, r, rfl⟩ | rfl
  · refine unsigned_ofScaled ?_ _
    simp only [signed, Bool.false_eq_true, if_false]
    positivity
  · exact .inr rfl
  · exact .inr rfl
  · exact .inr rfl

/-- Of the products only the one of infinity and zero is no number. -/
lemma Unsigned.mul (hx : Unsigned x) {n : Nat} (hn : n ≠ 0) (r : Int) :
    Unsigned (x.mul (.finite false n r)) := by
  rcases hx with ⟨m, q, rfl⟩ | rfl
  · refine unsigned_ofScaled ?_ _
    simp only [signed, bne_self_eq_false, Bool.false_eq_true, if_false]
    positivity
  · right
    simp [Binary64.mul, isZero, isNegative, hn]

end Unsigned

end Binary64

end Pinboard.Number

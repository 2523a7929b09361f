import Mathlib.Tactic.Ring
import Pinboard.Launch

/-!
# The statistics of a pin

The average of the times that uses take is a rounded quotient. It is a number as long as the times
are far from the ends of the format, and no rounding lifts it above a power of two that bounds the
times.
-/
namespace Pinboard

namespace Number

lemma nearestEven_le {n d k : Nat} (h : n ≤ k * d) : nearestEven n d ≤ k := by
  rcases Nat.eq_zero_or_pos d with rfl | hd
  · simp [nearestEven, Nat.le_zero.mp h]
  have hq : n / d ≤ k := Nat.div_le_of_le_mul (by rwa [Nat.mul_comm])
  have hdivided := Nat.div_add_mod n d
  -- Rounding up to a number above `k` would need a remainder, and `k * d` has none.
  have hrest : n / d = k → n % d = 0 := fun heq => by
    rw [heq, Nat.mul_comm] at hdivided
    omega
  simp only [nearestEven]
  split_ifs <;> omega

namespace Binary64

/-- `m · 2 ^ q` is at most `2 ^ k`. -/
def Within (k m : Nat) (q : Int) : Prop := m * 2 ^ q.toNat ≤ 2 ^ k * 2 ^ (-q).toNat

variable {n d k m : Nat} {q : Int}

lemma floorLog_le (hn : 0 < n) (h : n ≤ 2 ^ k * d) : floorLog n d ≤ k := by
  have hlog : Nat.log2 n < k + Nat.log2 d + 1 := by
    rw [Nat.log2_lt (by omega)]
    calc n ≤ 2 ^ k * d := h
      _ < 2 ^ k * 2 ^ (Nat.log2 d + 1) :=
        Nat.mul_lt_mul_of_pos_left Nat.lt_log2_self (Nat.two_pow_pos k)
      _ = 2 ^ (k + Nat.log2 d + 1) := by rw [← Nat.pow_add, Nat.add_assoc]
  simp only [floorLog]
  split <;> omega

lemma within_nearestEven (h : n ≤ 2 ^ k * d) (hq : q ≤ k) :
    Within k (nearestEven (n * 2 ^ (-q).toNat) (d * 2 ^ q.toNat)) q := by
  rcases le_or_gt 0 q with hnonneg | hneg
  · have hdown : (-q).toNat = 0 := by omega
    have hsplit : 2 ^ k = 2 ^ (k - q.toNat) * 2 ^ q.toNat := by
      rw [← Nat.pow_add, Nat.sub_add_cancel (by omega)]
    have hle : nearestEven n (d * 2 ^ q.toNat) ≤ 2 ^ (k - q.toNat) := nearestEven_le <| by
      calc n ≤ 2 ^ k * d := h
        _ = 2 ^ (k - q.toNat) * (d * 2 ^ q.toNat) := by rw [hsplit]; ring
    rw [Within, hdown, Nat.pow_zero, Nat.mul_one, Nat.mul_one, hsplit]
    exact Nat.mul_le_mul_right _ hle
  · have hup : q.toNat = 0 := by omega
    rw [Within, hup, Nat.pow_zero, Nat.mul_one, Nat.mul_one]
    refine nearestEven_le ?_
    calc n * 2 ^ (-q).toNat ≤ 2 ^ k * d * 2 ^ (-q).toNat := Nat.mul_le_mul_right _ h
      _ = 2 ^ k * 2 ^ (-q).toNat * d := by ring

/-- A carry out of the significand does not change the number. -/
lemma Within.carry (h : Within k (2 ^ 53) q) : Within k (2 ^ 52) (q + 1) := by
  rcases le_or_gt 0 q with hnonneg | hneg
  · have hup : (q + 1).toNat = q.toNat + 1 := by omega
    have hdown : (-(q + 1)).toNat = (-q).toNat := by omega
    rw [Within, hup, hdown, Nat.pow_succ]
    calc 2 ^ 52 * (2 ^ q.toNat * 2) = 2 ^ 53 * 2 ^ q.toNat := by ring
      _ ≤ 2 ^ k * 2 ^ (-q).toNat := h
  · have hup : q.toNat = 0 := by omega
    have hup' : (q + 1).toNat = 0 := by omega
    have hdown : (-q).toNat = (-(q + 1)).toNat + 1 := by omega
    have hhalf : 2 ^ k * 2 ^ (-q).toNat = 2 * (2 ^ k * 2 ^ (-(q + 1)).toNat) := by
      rw [hdown]
      ring
    rw [Within, hup, hhalf] at h
    rw [Within, hup']
    omega

/-- The value nearest to a quotient of at most `2 ^ k` is a number of at most `2 ^ k`. -/
lemma ofRatio_within (hk : k ≤ 1000) (h : n ≤ 2 ^ k * d) :
    ∃ m q, ofRatio false n d = .finite false m q ∧ Within k m q := by
  by_cases hn : n = 0
  · exact ⟨0, -1074, if_pos hn, by rw [Within, Nat.zero_mul]; exact Nat.zero_le _⟩
  have hfloor : floorLog n d ≤ k := floorLog_le (by omega) h
  have hq : exponentFor (floorLog n d) ≤ max ((k : Int) - 52) (-1074) := by
    simp only [exponentFor]
    omega
  have hwithin := within_nearestEven (q := exponentFor (floorLog n d)) h (by omega)
  simp only [ofRatio, if_neg hn, pack]
  by_cases hcarry : nearestEven (n * 2 ^ (-exponentFor (floorLog n d)).toNat)
      (d * 2 ^ (exponentFor (floorLog n d)).toNat) = 2 ^ 53
  · rw [hcarry] at hwithin
    simp only [hcarry, if_true]
    rw [if_neg (by omega)]
    exact ⟨_, _, rfl, hwithin.carry⟩
  · simp only [if_neg hcarry]
    rw [if_neg (by omega)]
    exact ⟨_, _, rfl, hwithin⟩

end Binary64
end Number

/-- The longest time that is reckoned with, in milliseconds. -/
def longestTime : Nat := 2 ^ 200

/-- The statistics that uses of a pin leave. -/
structure Pin.Counted (p : Pin) : Prop where
  times : 0 ≤ p.timesOpened
  average : 0 ≤ p.averageTime
  reached : p.averageTime ≤ longestTime

namespace Launch

open Number Binary64

/-- A quotient of natural numbers is the value nearest to it, made whole. -/
lemma roundedQuotient?_of_ofRatio {n d m : Nat} {q : Int} (hd : 0 < d)
    (h : ofRatio false n d = .finite false m q) : roundedQuotient? n d =
      some ((nearestEven (m * 2 ^ q.toNat) (2 ^ (-q).toNat) : Nat) : Int) := by
  have hn : ¬((n : Int) < 0) := by omega
  have hd' : ¬((d : Int) < 0) := by omega
  rw [roundedQuotient?, if_neg (by omega), decide_eq_false hn, decide_eq_false hd',
    Int.natAbs_natCast, Int.natAbs_natCast, bne_self_eq_false, h]
  simp [signed]

lemma roundedQuotient?_le {n d : Nat} (hd : 0 < d) (h : n ≤ longestTime * d) :
    ∃ v : Nat, roundedQuotient? n d = some (v : Int) ∧ v ≤ longestTime := by
  obtain ⟨m, q, hratio, hwithin⟩ := ofRatio_within (by decide : 200 ≤ 1000) h
  exact ⟨_, roundedQuotient?_of_ofRatio hd hratio, nearestEven_le hwithin⟩

/-- After a use the average is a number again, and within the same bounds. -/
lemma averageAfter?_counted {p : Pin} (hp : p.Counted) {elapsed : Nat}
    (helapsed : elapsed ≤ longestTime) :
    ∃ average, averageAfter? p.averageTime p.timesOpened elapsed = some average ∧ 0 ≤ average ∧
      average ≤ longestTime := by
  obtain ⟨t, ht⟩ := Int.eq_ofNat_of_zero_le hp.times
  obtain ⟨a, ha⟩ := Int.eq_ofNat_of_zero_le hp.average
  have hreached : a ≤ longestTime := by exact_mod_cast ha ▸ hp.reached
  rw [ht, ha, averageAfter?]
  by_cases hnone : (a : Int) = 0
  · exact ⟨elapsed, if_pos hnone, by omega, by exact_mod_cast helapsed⟩
  rw [if_neg hnone]
  have hsum : a * t + elapsed ≤ longestTime * (t + 1) := by
    calc a * t + elapsed ≤ longestTime * t + longestTime :=
          Nat.add_le_add (Nat.mul_le_mul_right t hreached) helapsed
      _ = longestTime * (t + 1) := by ring
  obtain ⟨v, hv, hle⟩ := roundedQuotient?_le (Nat.succ_pos t) hsum
  exact ⟨v, by exact_mod_cast hv, by omega, by exact_mod_cast hle⟩

end Launch

end Pinboard

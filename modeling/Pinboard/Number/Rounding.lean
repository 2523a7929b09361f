/-!
# Rounding a quotient

The nearest integer to a quotient of natural numbers, a half going to the even neighbour.
-/
namespace Pinboard.Number

/-- The integer nearest to `n / d`; of two equally near ones the even one. -/
def nearestEven (n d : Nat) : Nat :=
  let q := n / d
  let twice := 2 * (n % d)
  if twice < d then q
  else if d < twice then q + 1
  else if q % 2 = 0 then q else q + 1

theorem nearestEven_mul (q : Nat) {d : Nat} (hd : 0 < d) : nearestEven (q * d) d = q := by
  simp [nearestEven, hd]

theorem nearestEven_one (n : Nat) : nearestEven n 1 = n := by
  have := nearestEven_mul n (d := 1) (by omega)
  rwa [Nat.mul_one] at this

/-- The result is within half a unit of the quotient. -/
theorem nearestEven_within (n : Nat) {d : Nat} (hd : 0 < d) :
    2 * (nearestEven n d * d) ≤ 2 * n + d ∧ 2 * n ≤ 2 * (nearestEven n d * d) + d := by
  have hdm := Nat.div_add_mod n d
  have hm := Nat.mod_lt n hd
  have hc : d * (n / d) = n / d * d := Nat.mul_comm _ _
  simp only [nearestEven]
  split
  · omega
  · split
    · rw [Nat.add_mul]; omega
    · split
      · omega
      · rw [Nat.add_mul]; omega

end Pinboard.Number

/-! # Rounded division

`divNearest` is the quotient of two naturals rounded to the nearest natural, a
tie going to the even neighbour. It is the one rounding step behind binary
floating point, decimal quotients and numbers with fixed places.

Main statement: `two_mul_divNearest_le` and `le_two_mul_divNearest`, which
bound the distance to the exact quotient by one half.
-/

namespace CancellationPolicy

/-- The natural nearest to `n / d`, the even one of two equally near. -/
def divNearest (n d : Nat) : Nat :=
  if 2 * (n % d) < d ∨ (2 * (n % d) = d ∧ n / d % 2 = 0) then n / d else n / d + 1

/-- The rounded quotient is at most one half above the exact one. -/
theorem two_mul_divNearest_le (n : Nat) {d : Nat} (hd : 0 < d) :
    2 * (divNearest n d * d) ≤ 2 * n + d := by
  have hn := Nat.div_add_mod n d
  have hr := Nat.mod_lt n hd
  have hc : d * (n / d) = n / d * d := Nat.mul_comm _ _
  unfold divNearest
  split
  · omega
  · rw [Nat.add_mul]; omega

/-- The rounded quotient is at most one half below the exact one. -/
theorem le_two_mul_divNearest (n : Nat) {d : Nat} (hd : 0 < d) :
    2 * n ≤ 2 * (divNearest n d * d) + d := by
  have hn := Nat.div_add_mod n d
  have hr := Nat.mod_lt n hd
  have hc : d * (n / d) = n / d * d := Nat.mul_comm _ _
  unfold divNearest
  split
  · omega
  · rw [Nat.add_mul]; omega

/-- An exact quotient is not changed by rounding. -/
theorem divNearest_mul (q : Nat) {d : Nat} (hd : 0 < d) : divNearest (q * d) d = q := by
  simp [divNearest, Nat.mul_div_cancel q hd, hd]

end CancellationPolicy

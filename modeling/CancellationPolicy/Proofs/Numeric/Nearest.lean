import CancellationPolicy.Numeric.Nearest
import Mathlib.Data.Nat.Basic
import Mathlib.Order.Basic

/-!
# The order of rounded quotients

`divNearest n d` exceeds `k` if `n / d` lies behind the middle between `k` and `k + 1`, or in it if
`k` is odd (`lt_divNearest_iff`).  Rounding is therefore monotone (`divNearest_mono`).
-/

namespace CancellationPolicy

theorem lt_divNearest_iff {n d k : Nat} (hd : 0 < d) :
    k < divNearest n d ↔ (2 * k + 1) * d < 2 * n ∨ (2 * k + 1) * d = 2 * n ∧ k % 2 = 1 := by
  have hn := Nat.div_add_mod n d
  have hr := Nat.mod_lt n hd
  have hk : (2 * k + 1) * d = 2 * (k * d) + d := by rw [Nat.add_mul, Nat.mul_assoc, Nat.one_mul]
  rw [Nat.mul_comm d] at hn
  rw [hk, divNearest]
  -- only for `k` equal to the quotient rounded down does the remainder decide
  rcases Nat.lt_trichotomy k (n / d) with hlt | rfl | hgt
  · have hmul := Nat.mul_le_mul_right d hlt
    rw [Nat.succ_mul] at hmul
    split <;> omega
  · split <;> omega
  · have hmul := Nat.mul_le_mul_right d hgt
    rw [Nat.succ_mul] at hmul
    split <;> omega

/-- The nearest integer grows with the quotient. -/
theorem divNearest_mono {n d n' d' : Nat} (hd : 0 < d) (hd' : 0 < d') (h : n * d' ≤ n' * d) :
    divNearest n d ≤ divNearest n' d' := by
  have hdouble : 2 * n * d' ≤ 2 * n' * d := by
    rw [Nat.mul_assoc, Nat.mul_assoc]
    exact Nat.mul_le_mul_left 2 h
  refine le_of_forall_lt fun k hk => ?_
  rw [lt_divNearest_iff hd']
  rcases (lt_divNearest_iff hd).1 hk with hlt | ⟨heq, hodd⟩
  · refine .inl (Nat.lt_of_mul_lt_mul_right (a := d) ?_)
    calc (2 * k + 1) * d' * d = (2 * k + 1) * d * d' := Nat.mul_right_comm _ _ _
      _ < 2 * n * d' := Nat.mul_lt_mul_of_pos_right hlt hd'
      _ ≤ 2 * n' * d := hdouble
  -- at a tie, the other quotient is at the tie too or above it
  · have hle : (2 * k + 1) * d' ≤ 2 * n' := by
      refine Nat.le_of_mul_le_mul_right ?_ hd
      calc (2 * k + 1) * d' * d = (2 * k + 1) * d * d' := Nat.mul_right_comm _ _ _
        _ = 2 * n * d' := by rw [heq]
        _ ≤ 2 * n' * d := hdouble
    rcases Nat.lt_or_eq_of_le hle with hlt | heq'
    · exact .inl hlt
    · exact .inr ⟨heq', hodd⟩

/-- A quotient that is at most a natural is not rounded beyond it. -/
theorem divNearest_le {n d k : Nat} (hd : 0 < d) (h : n ≤ k * d) : divNearest n d ≤ k := by
  rw [← divNearest_mul k hd]
  exact divNearest_mono hd hd (Nat.mul_le_mul_right d h)

/-- A quotient that is at least a natural is not rounded below it. -/
theorem le_divNearest {n d k : Nat} (hd : 0 < d) (h : k * d ≤ n) : k ≤ divNearest n d := by
  rw [← divNearest_mul k hd]
  exact divNearest_mono hd hd (Nat.mul_le_mul_right d h)

end CancellationPolicy

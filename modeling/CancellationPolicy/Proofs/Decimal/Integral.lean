import CancellationPolicy.Value
import Mathlib.Algebra.Field.Rat
import Mathlib.Algebra.Order.Field.Basic
import Mathlib.Algebra.Order.Ring.Rat
import Mathlib.Data.Int.CharZero
import Mathlib.Data.Nat.Cast.Field

/-!
# Decimals that are integers

`Decimal.toInt64?` looks at the digits behind the point.  It finds the integer that is the value of
a decimal, if there is one and it has 64 bits, at whatever scale the decimal is written
(`toInt64?_eq_some_iff`).
-/

namespace CancellationPolicy

namespace Decimal

variable {x : Decimal} {i : Int}

theorem ten_pow_scale_pos (x : Decimal) : 0 < Nat.pow 10 x.scale := Nat.pow_pos (by decide)

theorem isIntegral_iff : x.isIntegral = true ↔ Nat.pow 10 x.scale ∣ x.mantissa := by
  rw [isIntegral, beq_iff_eq, Nat.dvd_iff_mod_eq_zero]

/-- Without digits behind the point the value is the integer in front of it. -/
theorem toRat_of_isIntegral (h : x.isIntegral = true) : x.toRat = x.truncated := by
  have hdiv : ((x.mantissa / Nat.pow 10 x.scale : ℕ) : ℚ) =
      x.mantissa / (Nat.pow 10 x.scale : ℕ) := Nat.cast_div_charZero (K := ℚ) (isIntegral_iff.1 h)
  rw [toRat, truncated, ← hdiv]
  split
  · rw [Int.cast_neg, Int.cast_natCast]
  · rw [Int.cast_natCast]

/-- If the value is an integer, there are no digits behind the point but zeros. -/
theorem isIntegral_of_toRat_eq (h : x.toRat = i) : x.isIntegral = true := by
  have hpos : (0 : ℚ) < (Nat.pow 10 x.scale : ℕ) := Nat.cast_pos.2 x.ten_pow_scale_pos
  -- the quotient is an integer whatever its sign
  obtain ⟨j, hj⟩ : ∃ j : ℤ, (x.mantissa : ℚ) / (Nat.pow 10 x.scale : ℕ) = j := by
    rw [toRat] at h
    split at h
    · exact ⟨-i, by rw [Int.cast_neg, ← h, neg_neg]⟩
    · exact ⟨i, h⟩
  rw [div_eq_iff hpos.ne'] at hj
  rw [isIntegral_iff, ← Int.natCast_dvd_natCast]
  refine ⟨j, ?_⟩
  rw [mul_comm]
  exact_mod_cast hj

/-- A decimal is an integer of 64 bits exactly if its value is one. -/
theorem toInt64?_eq_some_iff :
    x.toInt64? = some i ↔ x.toRat = i ∧ -2 ^ 63 ≤ i ∧ i < 2 ^ 63 := by
  rw [toInt64?, Option.ite_none_right_eq_some, Option.some.injEq]
  constructor
  · rintro ⟨⟨hintegral, hle, hlt⟩, rfl⟩
    exact ⟨toRat_of_isIntegral hintegral, hle, hlt⟩
  · rintro ⟨hvalue, hle, hlt⟩
    have hintegral := isIntegral_of_toRat_eq hvalue
    have htruncated : x.truncated = i :=
      Int.cast_injective ((toRat_of_isIntegral hintegral).symm.trans hvalue)
    rw [htruncated]
    exact ⟨⟨hintegral, hle, hlt⟩, rfl⟩

end Decimal

/-- A whole number of 64 bits is written as such in documents. -/
theorem Value.toJson_number {x : Decimal} {i : Int} (h : x.toRat = i) (hle : -2 ^ 63 ≤ i)
    (hlt : i < 2 ^ 63) : (Value.number x).toJson = .number (.int i) := by
  rw [toJson, Decimal.toInt64?_eq_some_iff.2 ⟨h, hle, hlt⟩]

end CancellationPolicy

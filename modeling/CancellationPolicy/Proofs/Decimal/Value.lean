import CancellationPolicy.Proofs.Decimal.Integral
import CancellationPolicy.Proofs.Floating.Order
import Mathlib.Data.Rat.Floor

/-!
# Values of decimals

Every operation on decimals is described by the rational that a decimal stands for
(`Decimal.toRat`): a sign and a mantissa over a power of ten (`toRat_eq`).  Taking the scale with
the fewest places does not change it (`toRat_normalize`), and `Decimal.ceil` finds the least integer
not below it (`toRat_ceil`).
-/

namespace CancellationPolicy.Decimal

open Binary (abs_signed signed)

variable {x : Decimal} {negative : Bool} {m s : Nat}

/-! ### Parts -/

theorem ten_pow_pos (s : Nat) : (0 : ℚ) < 10 ^ s := by positivity

/-- The value of a decimal is its mantissa, as many places behind the point as its scale says, with
its sign. -/
theorem toRat_eq (x : Decimal) : x.toRat = signed x.negative (x.mantissa / 10 ^ x.scale) := by
  have hpow : ((Nat.pow 10 x.scale : ℕ) : ℚ) = 10 ^ x.scale := by
    rw [Nat.pow_eq]
    push_cast
    rfl
  rw [toRat, hpow]
  rfl

theorem abs_toRat (x : Decimal) : |x.toRat| = x.mantissa / 10 ^ x.scale := by
  have hnonneg : (0 : ℚ) ≤ x.mantissa / 10 ^ x.scale := by positivity
  rw [toRat_eq, abs_signed, abs_of_nonneg hnonneg]

/-- A decimal that is built from parts has these parts; a zero has lost its sign. -/
theorem of_ofParts? (h : ofParts? negative m s = some x) :
    x.mantissa = m ∧ x.scale = s ∧ x.toRat = signed negative (m / 10 ^ s) := by
  unfold ofParts? at h
  split at h
  · obtain rfl := Option.some.inj h
    refine ⟨rfl, rfl, ?_⟩
    rw [toRat_eq]
    rcases eq_or_ne m 0 with rfl | hm
    · cases negative <;> simp [signed]
    · cases negative <;> simp [signed, hm]
  · cases h

/-! ### Fewer places -/

/-- Stripping zeros keeps the value. -/
theorem stripZeros_div (m s : Nat) :
    ((stripZeros m s).1 : ℚ) / 10 ^ (stripZeros m s).2 = m / 10 ^ s := by
  induction s generalizing m with
  | zero => rfl
  | succ s ih =>
    unfold stripZeros
    split
    · rename_i hzero
      -- the last digit is a zero, so the mantissa is ten times what is left
      have hm : (m : ℚ) = (m / 10 : ℕ) * 10 := by
        exact_mod_cast (Nat.div_mul_cancel (Nat.dvd_of_mod_eq_zero hzero)).symm
      rw [ih, hm, pow_succ, mul_div_mul_right _ _ (by norm_num)]
    · rfl

theorem toRat_zero : (0 : Decimal).toRat = 0 := by
  show ((0 : ℕ) : ℚ) / ((Nat.pow 10 0 : ℕ) : ℚ) = 0
  rw [Nat.cast_zero, zero_div]

/-- The normal form has the same value. -/
theorem toRat_normalize (x : Decimal) : x.normalize.toRat = x.toRat := by
  unfold normalize
  split
  · rename_i hzero
    rw [toRat_zero, toRat_eq x, hzero, Nat.cast_zero, zero_div]
    cases x.negative <;> simp [signed]
  · rw [toRat_eq, toRat_eq x, stripZeros_div]

/-! ### Integers above -/

theorem scale_ceil (x : Decimal) : x.ceil.scale = 0 := by
  unfold ceil
  split
  · assumption
  · split <;> rfl

theorem toRat_of_scale_eq_zero (h : x.scale = 0) :
    x.toRat = signed x.negative (x.mantissa : ℚ) := by
  rw [toRat_eq, h, pow_zero, div_one]

/-- The digits in front of the point are the greatest integer not above the mantissa's part. -/
theorem floor_mantissa_div (x : Decimal) :
    ⌊(x.mantissa : ℚ) / 10 ^ x.scale⌋ = (x.mantissa / Nat.pow 10 x.scale : ℕ) := by
  have hfloor := Rat.floor_natCast_div_natCast x.mantissa (10 ^ x.scale)
  push_cast at hfloor
  rw [hfloor, Nat.pow_eq]
  push_cast
  rfl

/-- The truncated decimal is the truncated value. -/
theorem toRat_trunc (x : Decimal) : x.trunc.toRat = x.truncated := by
  have hscale : x.trunc.scale = 0 := rfl
  have hsign : x.trunc.negative = x.negative := rfl
  have hmantissa : (x.trunc.mantissa : ℚ) = ((x.mantissa / Nat.pow 10 x.scale : ℕ) : ℤ) :=
    (Int.cast_natCast _).symm
  rw [toRat_of_scale_eq_zero hscale, hsign, hmantissa, truncated]
  cases x.negative
  · rfl
  · exact (Int.cast_neg _).symm

/-- The least integer not below the value; its decimal has no places behind the point. -/
theorem toRat_ceil (x : Decimal) : x.ceil.toRat = ⌈x.toRat⌉ := by
  by_cases hintegral : x.isIntegral = true
  · -- nothing is cut off
    have hceil : x.ceil.toRat = x.toRat := by
      unfold ceil
      split
      · rfl
      · rw [if_neg (by simp [hintegral]), toRat_trunc, toRat_of_isIntegral hintegral]
    rw [hceil, toRat_of_isIntegral hintegral, Int.ceil_intCast]
  · have hscale : x.scale ≠ 0 := by
      intro hzero
      rw [isIntegral, hzero] at hintegral
      simp [Nat.mod_one] at hintegral
    have hvalue := x.toRat_eq
    cases hn : x.negative with
    | true =>
      -- what is cut off a negative number makes it greater
      rw [hn] at hvalue
      have hfloor : ⌈x.toRat⌉ = -⌊(x.mantissa : ℚ) / 10 ^ x.scale⌋ := by
        rw [hvalue, signed, if_pos rfl, Int.ceil_neg]
      have htrunc : x.ceil = x.trunc := by
        rw [ceil, dif_neg hscale, if_neg (by simp [hn])]
      rw [htrunc, toRat_trunc, hfloor, floor_mantissa_div, truncated, hn, if_pos rfl]
    | false =>
      rw [hn] at hvalue
      -- above a positive number that is no integer, the next integer is one more than what is left
      have hnot_mem : x.toRat ∉ Set.range ((↑) : ℤ → ℚ) := by
        rintro ⟨i, hi⟩
        exact hintegral (isIntegral_of_toRat_eq hi.symm)
      have hnext := (Int.ceil_eq_floor_add_one_iff_notMem x.toRat).2 hnot_mem
      have hmantissa : x.ceil.toRat = ((x.mantissa / Nat.pow 10 x.scale + 1 : ℕ) : ℚ) := by
        have hfalse : x.isIntegral = false := by simpa using hintegral
        rw [toRat_of_scale_eq_zero x.scale_ceil, ceil, dif_neg hscale, if_pos ⟨hn, hfalse⟩]
        rfl
      have hfloor : ⌊x.toRat⌋ = (x.mantissa / Nat.pow 10 x.scale : ℕ) := by
        rw [hvalue, signed, if_neg (by decide), floor_mantissa_div]
      rw [hmantissa, hnext, hfloor]
      push_cast
      rfl

end CancellationPolicy.Decimal

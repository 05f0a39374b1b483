import CancellationPolicy.Proofs.Decimal.Value
import CancellationPolicy.Proofs.Floating.Zero
import CancellationPolicy.Value

/-!
# Decimals of one value

Without trailing zeros behind the point there is one way to write a number (`eq_of_isStripped`).
So decimals of one value, at whatever scales, have one normal form (`normalize_eq_of_toRat_eq`), and
are shown as one text.  If the value is an integer, they stand as one number in documents, also
where it has more than 64 bits (`Value.toJson_eq_of_toRat_eq`).
-/

namespace CancellationPolicy

namespace Decimal

open Binary (signed)

variable {x y : Decimal}

/-! ### The scale with the fewest places -/

/-- Whether a mantissa has no trailing zero behind the point. -/
def IsStripped (m s : Nat) : Prop := s = 0 ∨ m % 10 ≠ 0

/-- Stripping leaves no zero at the end of the fraction. -/
theorem isStripped_stripZeros (m s : Nat) :
    IsStripped (stripZeros m s).1 (stripZeros m s).2 := by
  induction s generalizing m with
  | zero => exact .inl rfl
  | succ s ih =>
    unfold stripZeros
    split
    · exact ih _
    · exact .inr ‹_›

/-- Of two ways to write a number without trailing zeros none has more places. -/
theorem le_of_isStripped {m s n t : Nat} (ht : IsStripped n t) (h : m * 10 ^ t = n * 10 ^ s) :
    t ≤ s := by
  by_contra hlt
  rw [not_le] at hlt
  rcases ht with rfl | hn
  · exact absurd hlt (Nat.not_lt_zero s)
  · -- the places in excess are zeros
    obtain ⟨k, rfl⟩ := Nat.exists_eq_add_of_lt hlt
    have hmul : n = m * 10 ^ (k + 1) := by
      refine Nat.eq_of_mul_eq_mul_right (Nat.pow_pos (n := s) (by decide : 0 < 10)) ?_
      rw [← h, Nat.mul_assoc, ← Nat.pow_add]
      congr 2
      omega
    refine hn ?_
    rw [hmul, Nat.pow_succ, ← Nat.mul_assoc, Nat.mul_mod_left]

/-- There is one way to write a value without zeros at the end. -/
theorem eq_of_isStripped {m s n t : Nat} (hs : IsStripped m s) (ht : IsStripped n t)
    (h : (m : ℚ) / 10 ^ s = n / 10 ^ t) : m = n ∧ s = t := by
  rw [div_eq_div_iff (ten_pow_pos s).ne' (ten_pow_pos t).ne'] at h
  have hnat : m * 10 ^ t = n * 10 ^ s := by exact_mod_cast h
  obtain rfl : s = t := Nat.le_antisymm (le_of_isStripped hs hnat.symm) (le_of_isStripped ht hnat)
  exact ⟨Nat.eq_of_mul_eq_mul_right (Nat.pow_pos (by decide)) hnat, rfl⟩

/-! ### Decimals of one value -/

theorem toRat_eq_zero_iff : x.toRat = 0 ↔ x.mantissa = 0 := by
  rw [← abs_eq_zero, abs_toRat, div_eq_zero_iff, Nat.cast_eq_zero]
  exact or_iff_left (ten_pow_pos _).ne'

/-- The sign of a number that is not zero. -/
theorem negative_iff (h : x.toRat ≠ 0) : x.negative = true ↔ x.toRat < 0 := by
  have hm : x.mantissa ≠ 0 := mt toRat_eq_zero_iff.2 h
  have hpos : (0 : ℚ) < x.mantissa / 10 ^ x.scale :=
    div_pos (Nat.cast_pos.2 (Nat.pos_of_ne_zero hm)) (ten_pow_pos _)
  rw [toRat_eq]
  cases x.negative with
  | true => exact iff_of_true rfl (neg_neg_of_pos hpos)
  | false => exact iff_of_false Bool.false_ne_true (not_lt.2 hpos.le)

theorem negative_eq_of_toRat_eq (h : x.toRat = y.toRat) (hne : x.toRat ≠ 0) :
    x.negative = y.negative := by
  rw [Bool.eq_iff_iff, negative_iff hne, negative_iff (h ▸ hne), h]

/-- Decimals of the same value other than zero have the same normal form. -/
theorem normalize_eq_of_toRat_eq (h : x.toRat = y.toRat) : x.normalize = y.normalize := by
  by_cases hzero : x.toRat = 0
  · rw [normalize, if_pos (toRat_eq_zero_iff.1 hzero), normalize,
      if_pos (toRat_eq_zero_iff.1 (h ▸ hzero))]
  · have hvalue : (x.mantissa : ℚ) / 10 ^ x.scale = y.mantissa / 10 ^ y.scale := by
      rw [← abs_toRat, ← abs_toRat, h]
    rw [← stripZeros_div, ← stripZeros_div y.mantissa] at hvalue
    obtain ⟨hmantissa, hscale⟩ := eq_of_isStripped (isStripped_stripZeros _ _)
      (isStripped_stripZeros _ _) hvalue
    rw [normalize, if_neg (mt toRat_eq_zero_iff.2 hzero), normalize,
      if_neg (mt toRat_eq_zero_iff.2 (h ▸ hzero))]
    simp only [hmantissa, hscale, negative_eq_of_toRat_eq h hzero]

/-! ### Integers -/

theorem isZero_fraction {s : Nat} (hs : s ≤ maxScale) :
    (Binary.ofNat .double 0 / Binary.ofNat .double (Nat.pow 10 s)).isZero = true := by
  have hpos : ∀ s < maxScale + 1, (0 : Double) < Binary.ofNat .double (Nat.pow 10 s) := by
    decide +kernel
  show (0 / Binary.ofNat .double (Nat.pow 10 s) : Double).isZero = true
  rw [Binary.zero_div_of_pos (hpos s (Nat.lt_succ_of_le hs))]
  decide

/-- An integer becomes the nearest number of 64 bits, whatever its scale is. -/
theorem toDouble_of_isIntegral (h : x.isIntegral = true) :
    x.toDouble =
      let unsigned := Binary.ofNat .double (x.mantissa / Nat.pow 10 x.scale)
      if x.negative then -unsigned else unsigned := by
  rw [isIntegral, beq_iff_eq] at h
  unfold toDouble
  by_cases hscale : x.scale = 0
  · rw [if_pos hscale, hscale, Nat.pow_eq, Nat.pow_zero, Nat.div_one]
  · rw [if_neg hscale]
    dsimp only
    rw [h, if_pos (isZero_fraction x.scale_le)]

/-- Decimals of the same integer other than zero become the same number of 64 bits. -/
theorem toDouble_eq_of_toRat_eq {i : Int} (hx : x.toRat = i) (hy : y.toRat = i) (hne : i ≠ 0) :
    x.toDouble = y.toDouble := by
  have hintegral := isIntegral_of_toRat_eq hx
  have hintegral' := isIntegral_of_toRat_eq hy
  have hsign : x.negative = y.negative :=
    negative_eq_of_toRat_eq (hx.trans hy.symm) (hx ▸ Int.cast_ne_zero.2 hne)
  -- the digits in front of the point are those of the integer, whatever the sign is
  have habs {z : Decimal} (hz : z.toRat = i) : z.mantissa / Nat.pow 10 z.scale = i.natAbs := by
    have htruncated : z.truncated = i :=
      Int.cast_injective ((toRat_of_isIntegral (isIntegral_of_toRat_eq hz)).symm.trans hz)
    rw [← htruncated, truncated]
    split
    · rw [Int.natAbs_neg, Int.natAbs_natCast]
    · rw [Int.natAbs_natCast]
  rw [toDouble_of_isIntegral hintegral, toDouble_of_isIntegral hintegral', habs hx, habs hy, hsign]

end Decimal

/-! ### Documents -/

/-- An integer stands as one number in documents, at whatever scale it is written. -/
theorem Value.toJson_eq_of_toRat_eq {x y : Decimal} {i : Int} (hx : x.toRat = i)
    (hy : y.toRat = i) : (Value.number x).toJson = (Value.number y).toJson := by
  -- an integer of 64 bits is written as one, any other as a floating number
  by_cases hsmall : -2 ^ 63 ≤ i ∧ i < 2 ^ 63
  · rw [toJson_number hx hsmall.1 hsmall.2, toJson_number hy hsmall.1 hsmall.2]
  · have hnone {z : Decimal} (hz : z.toRat = i) : z.toInt64? = none := by
      rw [Option.eq_none_iff_forall_ne_some]
      intro j hj
      obtain ⟨hvalue, hrange⟩ := Decimal.toInt64?_eq_some_iff.1 hj
      obtain rfl : i = j := Int.cast_injective (hz.symm.trans hvalue)
      exact hsmall hrange
    have hne : i ≠ 0 := by
      rintro rfl
      exact hsmall (by decide)
    rw [toJson, toJson, hnone hx, hnone hy]
    simp only [Decimal.toDouble_eq_of_toRat_eq hx hy hne]

end CancellationPolicy

import CancellationPolicy.Proofs.Decimal.Value
import CancellationPolicy.Proofs.Numeric.Nearest

/-!
# Quotients, rounded up

A quotient is rounded to the nearest decimal before it is rounded up, so it might reach an integer
that it is not, or cross one.  It does neither if the two numbers that are divided, brought to one
scale, have at most 28 digits (`ceil_div?`).

A quotient with the divisor `b` that is no integer is at least `1 / b` away from all integers.  The
last place is either the 28th behind the point, or so far to the right that one more place would not
fit; half a unit of it is less than `1 / b` in both cases (`lt_two_mul_ten_pow`).
-/

namespace CancellationPolicy.Decimal

open Binary (signed signed_div_signed)

variable {x y q : Decimal} {negative : Bool} {a b m s t : Nat}

/-! ### The place to which a quotient is rounded -/

theorem le_of_ofParts?_eq_none (h : ofParts? negative m s = none) (hs : s ≤ maxScale) :
    mantissaBound ≤ m := by
  rw [ofParts?] at h
  split at h
  · cases h
  · omega

/-- A quotient that is found is rounded to some place, and to the next one it does not fit. -/
theorem of_quotientAt? (hs : s ≤ maxScale) (h : quotientAt? negative a b s = some q) :
    ∃ t ≤ s, ofParts? negative (divNearest (a * 10 ^ t) b) t = some q ∧
      (t = s ∨ mantissaBound ≤ divNearest (a * 10 ^ (t + 1)) b) := by
  induction s with
  | zero =>
    rw [quotientAt?] at h
    exact ⟨0, le_rfl, by rwa [pow_zero, Nat.mul_one], .inl rfl⟩
  | succ s ih =>
    rw [quotientAt?] at h
    split at h
    · rename_i q' hq
      obtain rfl := Option.some.inj h
      exact ⟨s + 1, le_rfl, hq, .inl rfl⟩
    · rename_i hnone
      obtain ⟨t, ht, hparts, hfull⟩ := ih (by omega) h
      refine ⟨t, by omega, hparts, .inr ?_⟩
      -- the step above failed for want of room, so one place more has none
      rcases hfull with rfl | hfull
      · exact le_of_ofParts?_eq_none hnone hs
      · exact hfull

/-- There is a quotient if there is one without places. -/
theorem exists_quotientAt? (negative : Bool) (h : divNearest a b < mantissaBound) (s : Nat) :
    ∃ q, quotientAt? negative a b s = some q := by
  induction s with
  | zero =>
    rw [quotientAt?, ofParts?, dif_pos ⟨h, Nat.zero_le _⟩]
    exact ⟨_, rfl⟩
  | succ s ih =>
    rw [quotientAt?]
    split
    · exact ⟨_, rfl⟩
    · exact ih

/-- Half a unit of the place is less than a part of the divisor. -/
theorem lt_two_mul_ten_pow (ha : a < 10 ^ maxScale) (hb : 0 < b) (hb' : b < 10 ^ maxScale)
    (hfull : t = maxScale ∨ mantissaBound ≤ divNearest (a * 10 ^ (t + 1)) b) : b < 2 * 10 ^ t := by
  rcases hfull with rfl | hfull
  · omega
  · by_contra hge
    have hnear := two_mul_divNearest_le (a * 10 ^ (t + 1)) hb
    generalize divNearest (a * 10 ^ (t + 1)) b = m at hfull hnear
    -- a divisor as large as that would leave room for one place more
    have hmul : mantissaBound * b ≤ m * b := Nat.mul_le_mul_right b hfull
    have hunit : 0 < 10 ^ t := Nat.pow_pos (by decide)
    have ha' : a * 10 ^ t ≤ 10 ^ maxScale * 10 ^ t := Nat.mul_le_mul_right _ ha.le
    have hten : a * 10 ^ (t + 1) = 10 * (a * 10 ^ t) := by ring
    have hbound : mantissaBound = 79228162514264337593543950336 := rfl
    have hscale : 10 ^ maxScale = 10000000000000000000000000000 := rfl
    rw [hten] at hnear
    rw [hbound] at hmul
    rw [hscale] at ha'
    omega

/-! ### Integers above -/

/-- A fraction has the integers above it that another one has, if they are nearer to each other than
half a unit of the first and half a unit of the first is less than a unit of the other. -/
theorem le_mul_iff_of_near {m a b P : ℤ} (hb : 0 < b) (hnear : |2 * (m * b) - 2 * (a * P)| ≤ b)
    (hlt : b < 2 * P) (k : ℤ) : m ≤ k * P ↔ a ≤ k * b := by
  obtain ⟨hle, hge⟩ := abs_le.1 hnear
  constructor
  · intro hm
    by_contra ha
    have hm' : m * b ≤ k * P * b := mul_le_mul_of_nonneg_right hm hb.le
    have ha' : (k * b + 1) * P ≤ a * P :=
      mul_le_mul_of_nonneg_right (Int.add_one_le_iff.2 (not_le.1 ha)) (by linarith)
    linarith
  · intro ha
    by_contra hm
    have ha' : a * P ≤ k * b * P := mul_le_mul_of_nonneg_right ha (by linarith)
    have hm' : (k * P + 1) * b ≤ m * b :=
      mul_le_mul_of_nonneg_right (Int.add_one_le_iff.2 (not_le.1 hm)) hb.le
    linarith

/-- Rounding to the nearest place does not cross an integer. -/
theorem ceil_eq_ceil_of_near {m a b P : ℤ} (hb : 0 < b)
    (hnear : |2 * (m * b) - 2 * (a * P)| ≤ b) (hlt : b < 2 * P) :
    ⌈(m : ℚ) / P⌉ = ⌈(a : ℚ) / b⌉ := by
  have hb' : (0 : ℚ) < b := Int.cast_pos.2 hb
  have hP : (0 : ℚ) < P := Int.cast_pos.2 (by linarith)
  refine eq_of_forall_ge_iff fun k => ?_
  rw [Int.ceil_le, Int.ceil_le, div_le_iff₀ hP, div_le_iff₀ hb']
  exact_mod_cast le_mul_iff_of_near hb hnear hlt k

/-- The ceiling of a quotient with finitely many places is that of the exact quotient. -/
theorem ceil_signed_divNearest (negative : Bool) (ha : a < 10 ^ maxScale) (hb : 0 < b)
    (hb' : b < 10 ^ maxScale)
    (hfull : t = maxScale ∨ mantissaBound ≤ divNearest (a * 10 ^ (t + 1)) b) :
    ⌈signed negative (divNearest (a * 10 ^ t) b / 10 ^ t)⌉ = ⌈signed negative (a / b)⌉ := by
  have hlt := lt_two_mul_ten_pow ha hb hb' hfull
  have hle := two_mul_divNearest_le (a * 10 ^ t) hb
  have hge := le_two_mul_divNearest (a * 10 ^ t) hb
  generalize divNearest (a * 10 ^ t) b = m at hle hge
  zify at hb hle hge hlt
  have hnear : |2 * ((m : ℤ) * b) - 2 * (a * 10 ^ t)| ≤ b := abs_le.2 ⟨by linarith, by linarith⟩
  cases negative with
  | false =>
    have hceil := ceil_eq_ceil_of_near hb hnear hlt
    push_cast at hceil
    exact hceil
  | true =>
    -- below zero the distance is the same, with the sign in both numerators
    have hneg : |2 * (-(m : ℤ) * b) - 2 * (-(a : ℤ) * 10 ^ t)| ≤ b := by
      rw [← abs_neg]
      convert hnear using 2
      ring
    have hceil := ceil_eq_ceil_of_near hb hneg hlt
    push_cast at hceil
    rw [neg_div, neg_div] at hceil
    exact hceil

/-- Both numbers are brought to one scale, which then cancels. -/
theorem toRat_div_toRat (x y : Decimal) :
    x.toRat / y.toRat = signed (x.negative != y.negative)
      ((x.mantissa * 10 ^ y.scale : ℕ) / (y.mantissa * 10 ^ x.scale : ℕ)) := by
  rw [toRat_eq, toRat_eq, signed_div_signed, div_div_div_eq, mul_comm (10 ^ x.scale : ℚ)]
  push_cast
  rfl

/-- The quotient of two decimals that, brought to one scale, have at most 28 digits is rounded up to
the least integer that is not below it. -/
theorem ceil_div? (hx : x.mantissa * 10 ^ y.scale < 10 ^ maxScale)
    (hy : y.mantissa * 10 ^ x.scale < 10 ^ maxScale) (hne : y.mantissa ≠ 0) :
    ∃ q, x.div? y = some q ∧ q.ceil.toRat = ⌈x.toRat / y.toRat⌉ := by
  have hpos : 0 < y.mantissa * 10 ^ x.scale :=
    Nat.mul_pos (Nat.pos_of_ne_zero hne) (Nat.pow_pos (by decide))
  -- the quotient is at most the dividend, so it fits without places behind the point at the latest
  have hbound : 10 ^ maxScale < mantissaBound := by decide
  have hle := divNearest_le hpos (Nat.le_mul_of_pos_right (x.mantissa * 10 ^ y.scale) hpos)
  have hfits : divNearest (x.mantissa * 10 ^ y.scale) (y.mantissa * 10 ^ x.scale) <
      mantissaBound := by
    omega
  obtain ⟨q, hq⟩ := exists_quotientAt? (x.negative != y.negative) hfits maxScale
  obtain ⟨t, -, hparts, hfull⟩ := of_quotientAt? le_rfl hq
  obtain ⟨-, -, hvalue⟩ := of_ofParts? hparts
  refine ⟨q.normalize, ?_, ?_⟩
  · rw [div?, if_neg hne]
    show (quotientAt? _ (x.mantissa * 10 ^ y.scale) (y.mantissa * 10 ^ x.scale) maxScale).map _ = _
    rw [hq]
    rfl
  · rw [toRat_ceil, toRat_normalize, hvalue, ceil_signed_divNearest _ hx hpos hy hfull,
      toRat_div_toRat]

end CancellationPolicy.Decimal

import CancellationPolicy.Proofs.Floating.Sum
import CancellationPolicy.Proofs.Floating.TotalOrder

/-!
# Operations on zeros

There is one zero of each sign (`eq_zero_of_value?`).  Sums of zeros, products of a finite number
with zero and quotients of zero by a positive number are zeros, and their signs do not depend on
anything but those of the numbers (`add_zeros`, `mul_zero_of_isFinite`, `zero_div_of_pos`).
-/

namespace CancellationPolicy.Binary

open Extended

variable {f : Format} {x y : Binary f}

theorem isNegative_ofParts (n : Bool) (m : Nat) (e : Int) : (ofParts f n m e).isNegative = n := by
  rw [ofParts]
  split <;> rfl

theorem isNegative_zero (n : Bool) : (zero f n).isNegative = n := isNegative_ofParts n 0 _

theorem round_zero_num (n : Bool) (den : Nat) : round f n 0 den = zero f n := if_pos rfl

variable [f.Proper]

theorem canonical_zero : Canonical f 0 f.minExponent :=
  ⟨Nat.two_pow_pos _, le_rfl, Format.Proper.min_le_max, .inr rfl⟩

theorem zero_eq (n : Bool) : zero f n = finite n 0 f.minExponent canonical_zero :=
  dif_pos canonical_zero

/-- A number of value zero is the zero of its sign. -/
theorem eq_zero_of_value? (h : x.value? = some 0) : x = zero f x.isNegative :=
  eq_of_value?_of_isNegative h (value?_zero _) (isNegative_zero _).symm

/-! ### Comparisons -/

/-- What is not below zero and has a minus sign is a zero. -/
theorem eq_zero_of_isNegative (h : 0 ≤ x) (hsign : x.isNegative = true) : x = zero f true := by
  obtain ⟨a, ha, hpos⟩ := zero_le_iff.1 h
  cases x with
  | nan => cases ha
  | infinity n =>
    obtain rfl : n = true := hsign
    cases ha
    exact absurd hpos (by decide)
  | finite n m e hc =>
    obtain rfl : n = true := hsign
    obtain rfl := eq_zero_of_zero_le h
    refine eq_zero_of_value? ?_
    rw [value?, Nat.cast_zero, zero_mul, signed, if_pos rfl, neg_zero, ofRat_zero]

/-- Of the numbers from zero on only the zeros are not above zero. -/
theorem le_zero_iff_isZero (h : 0 ≤ x) : x ≤ 0 ↔ x.isZero = true := by
  obtain ⟨a, ha, hpos⟩ := zero_le_iff.1 h
  -- zero has the value zero, whatever its sign
  have hle : x ≤ 0 ↔ a ≤ 0 := by
    rw [le_iff_of_value? ha, show (0 : Binary f).value? = some 0 from value?_zero false]
    simp only [Option.some.injEq, exists_eq_left']
  rw [hle]
  cases x with
  | nan => cases ha
  | infinity n =>
    cases ha
    cases n with
    | false => exact iff_of_false (by decide) Bool.false_ne_true
    | true => exact absurd hpos (by decide)
  | finite n m e hc =>
    obtain rfl := Option.some.inj ha
    rw [← ofRat_zero, ofRat_le_ofRat] at hpos ⊢
    rw [isZero, beq_iff_eq]
    constructor
    · intro hnonpos
      -- a value between zero and zero has no significand
      have hvalue : signed n (m * 2 ^ e) = 0 := le_antisymm hnonpos hpos
      have habs := abs_signed n ((m : ℚ) * 2 ^ e)
      rw [hvalue, abs_zero, eq_comm, abs_eq_zero, mul_eq_zero] at habs
      exact Nat.cast_eq_zero.1 (habs.resolve_right (two_zpow_pos e).ne')
    · rintro rfl
      cases n <;> simp [signed]

/-! ### Arithmetic -/

/-- A sum of zeros is negative only if both are. -/
theorem add_zeros (a b : Bool) : zero f a + zero f b = zero f (a && b) := by
  rw [zero_eq, zero_eq]
  have hunits (n : Bool) (e d : Int) : signedUnits n 0 e d = 0 := by
    cases n <;> simp [signedUnits]
  refine if_pos ?_
  rw [hunits, hunits, add_zero]

theorem sub_zeros (a : Bool) : zero f a - 0 = zero f a := by
  have hneg : neg (0 : Binary f) = zero f true := by
    rw [show (0 : Binary f) = zero f false from rfl, zero_eq, zero_eq]
    rfl
  show zero f a + neg 0 = _
  rw [hneg, add_zeros, Bool.and_true]

/-- A finite number times zero is the zero of its sign. -/
theorem mul_zero_of_isFinite (hx : x.isFinite = true) : x * 0 = zero f x.isNegative := by
  cases x with
  | nan => cases hx
  | infinity n => cases hx
  | finite n m e h =>
    rw [show (0 : Binary f) = zero f false from rfl, zero_eq]
    show ofScaled f (n != false) (m * 0) _ = zero f n
    rw [ofScaled, mul_zero, zero_mul, round_zero_num, Bool.bne_false]

/-- Zero by a positive number, which may be infinite, is zero. -/
theorem zero_div_of_pos (hy : 0 < y) : 0 / y = 0 := by
  rw [show (0 : Binary f) = zero f false from rfl, zero_eq]
  rcases eq_of_zero_lt hy with rfl | ⟨n, d, h, rfl, hn⟩
  · exact zero_eq false
  · show (if n = 0 then _ else round f _ (0 * _) _) = _
    rw [if_neg hn, zero_mul, round_zero_num, bne_self_eq_false]
    exact zero_eq false

end CancellationPolicy.Binary

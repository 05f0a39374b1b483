import CancellationPolicy.Proofs.Floating.Operations

/-!
# The rationals around a number

A finite number other than zero is the nearest one for the rationals of an interval around it
(`IsNearest`), which are those that are rounded to it (`round_eq_finite_iff`).  A value other than
zero belongs to one number only (`eq_finite_of_value?`), so a number of another format whose value
lies in the interval is converted to this very number (`convert_eq_finite`).

Where rounding does change a value, it does so by half a last place at most
(`abs_rounded_sub_mul_le`).
-/

namespace CancellationPolicy.Binary

open Extended

variable {f g : Format} {num den m : Nat} {e : Int}

/-! ### The interval -/

/-- The lower end of the rationals around `m * 2 ^ e`, half way to the next lesser number.  Below a
power of two the numbers are closer to each other. -/
def lowerEnd (f : Format) (m : Nat) (e : Int) : ℚ :=
  (if m = Nat.pow 2 (f.precision - 1) ∧ f.minExponent < e then (4 * m - 1 : ℚ) else 4 * m - 2) *
    2 ^ (e - 2)

/-- The upper end of the rationals around `m * 2 ^ e`, half way to the next greater number. -/
def upperEnd (m : Nat) (e : Int) : ℚ := (4 * m + 2) * 2 ^ (e - 2)

/-- Whether `m * 2 ^ e` is the nearest number to `q`; the ends count if `m` is even. -/
structure IsNearest (f : Format) (m : Nat) (e : Int) (q : ℚ) : Prop where
  /-- It is not nearer to a lesser number. -/
  lower : lowerEnd f m e < q ∨ m % 2 = 0 ∧ lowerEnd f m e = q
  /-- It is not nearer to a greater number. -/
  upper : q < upperEnd m e ∨ m % 2 = 0 ∧ q = upperEnd m e

theorem quarter_eq (e : Int) : (2 : ℚ) ^ e = 4 * 2 ^ (e - 2) := by
  rw [show (4 : ℚ) = 2 ^ (2 : ℤ) by norm_num, ← two_zpow_add]
  congr 1
  omega

theorem lowerEnd_le (f : Format) (m : Nat) (e : Int) :
    lowerEnd f m e ≤ (4 * m - 1) * 2 ^ (e - 2) := by
  refine mul_le_mul_of_nonneg_right ?_ (two_zpow_pos _).le
  split <;> linarith

/-- The lower end is at most half a place below the number. -/
theorem le_lowerEnd (f : Format) (m : Nat) (e : Int) :
    (4 * m - 2) * 2 ^ (e - 2) ≤ lowerEnd f m e := by
  refine mul_le_mul_of_nonneg_right ?_ (two_zpow_pos _).le
  split <;> linarith

theorem value_lt_upperEnd (m : Nat) (e : Int) : (m : ℚ) * 2 ^ e < upperEnd m e := by
  have := two_zpow_pos (e - 2)
  rw [upperEnd, quarter_eq e]
  linarith

theorem lowerEnd_lt_value (f : Format) (m : Nat) (e : Int) : lowerEnd f m e < m * 2 ^ e := by
  have := two_zpow_pos (e - 2)
  have := lowerEnd_le f m e
  rw [quarter_eq e]
  linarith

namespace IsNearest

variable {q : ℚ}

theorem le_upperEnd (h : IsNearest f m e q) : q ≤ upperEnd m e := by
  rcases h.upper with h | ⟨-, h⟩
  · exact h.le
  · exact h.le

theorem lowerEnd_le (h : IsNearest f m e q) : lowerEnd f m e ≤ q := by
  rcases h.lower with h | ⟨-, h⟩
  · exact h.le
  · exact h.le

theorem pos (h : IsNearest f m e q) (hm : m ≠ 0) : 0 < q := by
  have hm' : (1 : ℚ) ≤ m := by exact_mod_cast Nat.pos_of_ne_zero hm
  calc (0 : ℚ) < (4 * m - 2) * 2 ^ (e - 2) := mul_pos (by linarith) (two_zpow_pos _)
    _ ≤ lowerEnd f m e := le_lowerEnd f m e
    _ ≤ q := h.lowerEnd_le

end IsNearest

/-! ### Rounding to a number -/

/-- The rounded count of units exceeds `k` if the quotient lies behind the middle between `k` and
`k + 1` units, or in it if `k` is odd. -/
theorem lt_unitsNearest_iff (hden : 0 < den) {k : Nat} :
    k < unitsNearest num den e ↔ (2 * k + 1) * 2 ^ e < 2 * ((num : ℚ) / den) ∨
      (2 * k + 1) * 2 ^ e = 2 * ((num : ℚ) / den) ∧ k % 2 = 1 := by
  -- all is compared in halves of a unit, so that the ties are whole numbers
  have hdouble : ((2 * num : ℕ) : ℚ) / den = 2 * ((num : ℚ) / den) := by
    push_cast
    exact mul_div_assoc _ _ _
  have hle : 2 * (num * 2 ^ (-e).toNat) ≤ (2 * k + 1) * (den * 2 ^ e.toNat) ↔
      2 * ((num : ℚ) / den) ≤ (2 * k + 1) * 2 ^ e := by
    rw [← Nat.mul_assoc, mul_two_pow_le_iff hden, hdouble]
    push_cast
    rfl
  have hge : (2 * k + 1) * (den * 2 ^ e.toNat) ≤ 2 * (num * 2 ^ (-e).toNat) ↔
      (2 * k + 1) * 2 ^ e ≤ 2 * ((num : ℚ) / den) := by
    rw [← Nat.mul_assoc 2, le_mul_two_pow_iff hden, hdouble]
    push_cast
    rfl
  rw [unitsNearest, Nat.pow_eq, Nat.pow_eq,
    lt_divNearest_iff (Nat.mul_pos hden (Nat.two_pow_pos _))]
  refine or_congr ?_ (and_congr_left' ?_)
  · rw [← not_le, hle, not_le]
  · rw [le_antisymm_iff, hge, hle, ← le_antisymm_iff]

/-- The units of a quotient that is within half a unit, or at its end for an even number. -/
theorem unitsNearest_eq (hden : 0 < den) {k : Nat} (hk : k ≠ 0)
    (hlower : (2 * k - 1) * 2 ^ e < 2 * ((num : ℚ) / den) ∨
      k % 2 = 0 ∧ (2 * k - 1) * 2 ^ e = 2 * ((num : ℚ) / den))
    (hupper : 2 * ((num : ℚ) / den) < (2 * k + 1) * 2 ^ e ∨
      k % 2 = 0 ∧ 2 * ((num : ℚ) / den) = (2 * k + 1) * 2 ^ e) :
    unitsNearest num den e = k := by
  obtain ⟨j, rfl⟩ := Nat.exists_eq_succ_of_ne_zero hk
  refine Nat.le_antisymm (Nat.not_lt.1 fun h => ?_) ((lt_unitsNearest_iff hden).2 ?_)
  · rcases (lt_unitsNearest_iff hden).1 h with h | ⟨h, hodd⟩ <;>
      rcases hupper with hupper | ⟨heven, hupper⟩
    · exact lt_asymm h hupper
    · exact h.ne hupper.symm
    · exact hupper.ne h.symm
    · omega
  · rw [show (2 * (j.succ : ℚ) - 1) = 2 * j + 1 by push_cast; ring] at hlower
    exact hlower.imp_right fun h => ⟨h.2, by omega⟩

/-- A quotient lies around the count that it is rounded to. -/
theorem of_unitsNearest_eq (hden : 0 < den) {k : Nat} (hk : k ≠ 0)
    (h : unitsNearest num den e = k) :
    ((2 * k - 1) * 2 ^ e < 2 * ((num : ℚ) / den) ∨
      k % 2 = 0 ∧ (2 * k - 1) * 2 ^ e = 2 * ((num : ℚ) / den)) ∧
    (2 * ((num : ℚ) / den) < (2 * k + 1) * 2 ^ e ∨
      k % 2 = 0 ∧ 2 * ((num : ℚ) / den) = (2 * k + 1) * 2 ^ e) := by
  obtain ⟨j, rfl⟩ := Nat.exists_eq_succ_of_ne_zero hk
  have hlower := (lt_unitsNearest_iff (e := e) hden).1 (show j < unitsNearest num den e by omega)
  have hupper := mt (lt_unitsNearest_iff (e := e) hden).2
    (show ¬j.succ < unitsNearest num den e by omega)
  rw [not_or, not_lt] at hupper
  constructor
  · rw [show (2 * (j.succ : ℚ) - 1) = 2 * j + 1 by push_cast; ring]
    exact hlower.imp_right fun h => ⟨by omega, h.1⟩
  · rcases hupper.1.lt_or_eq with hlt | heq
    · exact .inl hlt
    · have heven : ¬j.succ % 2 = 1 := fun hodd => hupper.2 ⟨heq.symm, hodd⟩
      exact .inr ⟨by omega, heq⟩

theorem placeOf_eq_of_lt [f.Proper] (hnum : num ≠ 0) (hden : 0 < den) (he : f.minExponent ≤ e)
    (hlt : (num : ℚ) / den < (2 ^ f.precision : ℕ) * 2 ^ e)
    (hle : (2 ^ (f.precision - 1) : ℕ) * 2 ^ e ≤ (num : ℚ) / den ∨ e = f.minExponent) :
    placeOf f num den = e := by
  have hp := Format.Proper.precision_pos (f := f)
  have hpos := quotient_pos hnum hden
  have hlog := (Int.lt_zpow_iff_log_lt (b := 2) (x := f.precision + e) (by norm_num) hpos).1 (by
    rw [Nat.cast_ofNat, two_zpow_add]
    exact_mod_cast hlt)
  rw [placeOf_eq hnum hden]
  rcases hle with hle | rfl
  · have hlog' := (Int.zpow_le_iff_le_log (b := 2) (x := (f.precision - 1 : ℕ) + e)
      (by norm_num) hpos).1 (by
        rw [Nat.cast_ofNat, two_zpow_add]
        exact_mod_cast hle)
    omega
  · omega

/-- A quotient with the last place of its nearest number is rounded to this number. -/
theorem rounded_eq_of_placeOf [f.Proper] (hm : m ≠ 0) (hden : 0 < den)
    (h : IsNearest f m e (num / den)) (hplace : placeOf f num den = e) :
    rounded f num den = m * 2 ^ e := by
  -- the ends in quarters of a place are half a unit from the number
  have hends : (2 * m - 1 : ℚ) * 2 ^ e = 2 * ((4 * m - 2) * 2 ^ (e - 2)) ∧
      (2 * m + 1 : ℚ) * 2 ^ e = 2 * ((4 * m + 2) * 2 ^ (e - 2)) := by
    rw [quarter_eq]
    constructor <;> ring
  rw [rounded, hplace, unitsNearest_eq hden hm]
  · rw [hends.1]
    rcases ((le_lowerEnd f m e).trans h.lowerEnd_le).lt_or_eq with hlt | heq
    · exact .inl (by linarith)
    · -- the quotient is the lower end, which then is not the nearer one below a power of two
      have hend : lowerEnd f m e = (num : ℚ) / den :=
        le_antisymm h.lowerEnd_le (heq ▸ le_lowerEnd f m e)
      rcases h.lower with hlt | ⟨heven, -⟩
      · exact absurd hend hlt.ne
      · exact .inr ⟨heven, by rw [heq]⟩
  · rw [hends.2]
    rcases h.upper with hlt | ⟨heven, heq⟩
    · rw [upperEnd] at hlt
      exact .inl (by linarith)
    · exact .inr ⟨heven, by rw [heq, upperEnd]⟩

/-- Below a power of two the last place is half as big, and there are twice as many units. -/
theorem rounded_eq_of_lt_pow [f.Proper] (hnum : num ≠ 0) (hden : 0 < den)
    (h : IsNearest f m e (num / den)) (hm : m = 2 ^ (f.precision - 1)) (he : f.minExponent < e)
    (hshort : (num : ℚ) / den < m * 2 ^ e) : rounded f num den = m * 2 ^ e := by
  have hone : (1 : ℚ) ≤ m := by
    rw [hm]
    exact_mod_cast Nat.two_pow_pos _
  have hquarter := quarter_eq e
  have hunit := two_zpow_pos (e - 2)
  have hhalf : (2 : ℚ) ^ (e - 1) = 2 * 2 ^ (e - 2) := by
    rw [show e - 1 = 1 + (e - 2) by omega, two_zpow_add, zpow_one]
  have hle : (4 * m - 1 : ℚ) * 2 ^ (e - 2) ≤ num / den := by
    have hlower := h.lowerEnd_le
    rwa [lowerEnd, if_pos ⟨hm, he⟩] at hlower
  -- the quotient is below a power of two, so its last place is the one below
  have hplace : placeOf f num den = e - 1 := by
    refine placeOf_eq_of_lt hnum hden (by omega) ?_ (.inl ?_)
    · rw [two_pow_mul_two_zpow, ← hm, sub_add_cancel]
      exact hshort
    · rw [← hm, hhalf]
      nlinarith
  have hm0 : 2 * m ≠ 0 := Nat.mul_ne_zero two_ne_zero (by rw [hm]; positivity)
  rw [rounded, hplace, unitsNearest_eq hden hm0]
  · push_cast
    rw [hhalf, hquarter]
    ring
  · push_cast
    rcases hle.lt_or_eq with hlt | heq
    · refine .inl ?_
      rw [hhalf]
      linarith
    · refine .inr ⟨by omega, ?_⟩
      rw [hhalf, ← heq]
      ring
  · push_cast
    refine .inl ?_
    rw [hhalf]
    rw [hquarter] at hshort
    linarith

/-- A quotient is rounded to the number that is nearest to it. -/
theorem rounded_eq_of_isNearest [f.Proper] (hcanonical : Canonical f m e) (hm : m ≠ 0)
    (hden : 0 < den) (h : IsNearest f m e (num / den)) : rounded f num den = m * 2 ^ e := by
  have hpos := h.pos hm
  have hnum : num ≠ 0 := by
    rintro rfl
    rw [Nat.cast_zero, zero_div] at hpos
    exact lt_irrefl _ hpos
  obtain ⟨hlt, hmin, -, hfull⟩ := hcanonical
  have hquarter := quarter_eq e
  have hunit := two_zpow_pos (e - 2)
  -- the quotient has the place of the number, or it is just below a power of two
  by_cases hlong : (2 ^ (f.precision - 1) : ℕ) * 2 ^ e ≤ (num : ℚ) / den ∨ e = f.minExponent
  · refine rounded_eq_of_placeOf hm hden h (placeOf_eq_of_lt hnum hden hmin ?_ hlong)
    have hlt' : (m : ℚ) + 1 ≤ (2 ^ f.precision : ℕ) := by exact_mod_cast hlt
    refine h.le_upperEnd.trans_lt ?_
    rw [upperEnd, hquarter]
    nlinarith
  · rw [not_or, not_le] at hlong
    obtain ⟨hshort, hne⟩ := hlong
    have hm' : m = 2 ^ (f.precision - 1) := by
      refine Nat.le_antisymm (Nat.not_lt.1 fun hgt => hshort.not_ge ?_)
        (hfull.resolve_right hne)
      have hgt' : ((2 ^ (f.precision - 1) : ℕ) : ℚ) + 1 ≤ m := by exact_mod_cast hgt
      calc ((2 ^ (f.precision - 1) : ℕ) : ℚ) * 2 ^ e ≤ (4 * m - 2) * 2 ^ (e - 2) := by
            rw [hquarter]
            nlinarith
        _ ≤ (num : ℚ) / den := (le_lowerEnd f m e).trans h.lowerEnd_le
    rw [← hm'] at hshort
    exact rounded_eq_of_lt_pow hnum hden h hm' (by omega) hshort

/-- A quotient that is counted in the last places of a number lies in the interval of the number
that it is rounded to. -/
theorem isNearest_of_placeOf [f.Proper] (hm : m ≠ 0) (hnum : num ≠ 0) (hden : 0 < den)
    (hplace : placeOf f num den = e) (hunits : unitsNearest num den e = m) :
    IsNearest f m e (num / den) := by
  obtain ⟨hlower, hupper⟩ := of_unitsNearest_eq hden hm hunits
  have hunit := two_zpow_pos (e - 2)
  rw [quarter_eq] at hlower hupper
  constructor
  · by_cases hnarrow : m = Nat.pow 2 (f.precision - 1) ∧ f.minExponent < e
    · -- a quotient below the power of two would be counted in lesser places
      left
      have hle := placeOf_le_div (f := f) hnum hden (by omega)
      refine (lowerEnd_lt_value f m e).trans_le ((le_of_eq ?_).trans hle)
      have hp := Format.Proper.precision_pos (f := f)
      rw [hnarrow.1, hplace, Nat.pow_eq, Nat.cast_pow, Nat.cast_ofNat, ← zpow_natCast,
        ← two_zpow_add]
      congr 1
      omega
    · rw [lowerEnd, if_neg hnarrow]
      rcases hlower with hlt | ⟨heven, heq⟩
      · exact .inl (by linarith)
      · exact .inr ⟨heven, by linarith⟩
  · rw [upperEnd]
    rcases hupper with hlt | ⟨heven, heq⟩
    · exact .inl (by linarith)
    · exact .inr ⟨heven, by linarith⟩

/-- A quotient that is rounded up to a power of two lies in the interval of this power, below which
the last place is half as big. -/
theorem isNearest_of_eq_pow [f.Proper] (hlong : 2 ≤ f.precision)
    (hm : m = Nat.pow 2 (f.precision - 1)) (hnum : num ≠ 0) (hden : 0 < den)
    (hplace : placeOf f num den = e - 1) (hunits : unitsNearest num den (e - 1) = 2 * m) :
    IsNearest f m e (num / den) := by
  have hmin := minExponent_le_placeOf f num den
  have hupper := div_lt_placeOf (f := f) hnum hden
  rw [hplace] at hmin hupper
  have hhalf : (2 : ℚ) ^ (e - 1) = 2 * 2 ^ (e - 2) := by
    rw [show e - 1 = 1 + (e - 2) by omega, two_zpow_add, zpow_one]
  have hm0 : m ≠ 0 := by
    rw [hm]
    exact (Nat.two_pow_pos _).ne'
  have heven : m % 2 = 0 := by
    rw [hm, Nat.pow_eq, show f.precision - 1 = (f.precision - 2) + 1 by omega, Nat.pow_succ]
    omega
  have hpow : (2 : ℚ) ^ (e - 1 + f.precision) = m * 2 ^ e := by
    rw [hm, Nat.pow_eq, Nat.cast_pow, Nat.cast_ofNat, ← zpow_natCast, ← two_zpow_add]
    congr 1
    omega
  obtain ⟨hlower, -⟩ := of_unitsNearest_eq hden (Nat.mul_ne_zero two_ne_zero hm0) hunits
  push_cast at hlower
  rw [hhalf] at hlower
  constructor
  · rw [lowerEnd, if_pos ⟨hm, by omega⟩]
    rcases hlower with hlt | ⟨-, heq⟩
    · exact .inl (by linarith)
    · exact .inr ⟨heven, by linarith⟩
  · left
    rw [hpow] at hupper
    exact hupper.trans (value_lt_upperEnd m e)

/-- The parts of a number that parts are put together to. -/
theorem eq_of_ofParts_eq {negative negative' : Bool} {n : Nat} {d : Int} {h : Canonical f m e}
    (heq : ofParts f negative n d = finite negative' m e h) : n = m ∧ d = e := by
  rw [ofParts] at heq
  split at heq
  · obtain ⟨-, hn, hd⟩ := finite.inj heq
    exact ⟨hn, hd⟩
  · cases heq

/-- A quotient lies in the interval of the number that it is rounded to. -/
theorem isNearest_of_round_eq [f.Proper] (hlong : 2 ≤ f.precision) (hm : m ≠ 0) (hden : 0 < den)
    {negative negative' : Bool} {h : Canonical f m e}
    (hround : round f negative num den = finite negative' m e h) :
    IsNearest f m e (num / den) := by
  have hnum : num ≠ 0 := by
    rintro rfl
    rw [round, if_pos rfl, zero] at hround
    exact hm (eq_of_ofParts_eq hround).1.symm
  rw [round, if_neg hnum] at hround
  dsimp only at hround
  split at hround
  · -- the count is a power of two, which is written with the next last place
    rename_i hpow
    obtain ⟨hm', he⟩ := eq_of_ofParts_eq hround
    have hplace : placeOf f num den = e - 1 := by omega
    refine isNearest_of_eq_pow hlong hm'.symm hnum hden hplace ?_
    rw [← hplace, hpow, ← hm', Nat.pow_eq, Nat.pow_eq, ← Nat.pow_succ']
    congr 1
    omega
  · obtain ⟨hm', he⟩ := eq_of_ofParts_eq hround
    exact isNearest_of_placeOf hm hnum hden he (he ▸ hm')

/-! ### Numbers of a value -/

/-- In canonical form, the number with the lesser exponent is the lesser one. -/
theorem significand_lt_of_exponent_lt {n : Nat} {d : Int} (hd : Canonical f n d)
    (h : Canonical f m e) (hlt : e < d) : (m : ℚ) * 2 ^ e < n * 2 ^ d := by
  have hfull : 2 ^ (f.precision - 1) ≤ n := hd.2.2.2.resolve_right (by have := h.2.1; omega)
  have hm : (m : ℚ) < 2 * n := by
    have hlong : 2 ^ f.precision ≤ 2 * 2 ^ (f.precision - 1) := by
      rw [← Nat.pow_succ']
      exact Nat.pow_le_pow_right (by decide) (by omega)
    have : m < 2 * n := h.1.trans_le (hlong.trans (Nat.mul_le_mul_left 2 hfull))
    exact_mod_cast this
  calc (m : ℚ) * 2 ^ e < 2 * n * 2 ^ e := mul_lt_mul_of_pos_right hm (two_zpow_pos e)
    _ = n * 2 ^ (e + 1) := by rw [two_zpow_add, zpow_one]; ring
    _ ≤ n * 2 ^ d := mul_le_mul_of_nonneg_left (two_zpow_le hlt) (Nat.cast_nonneg _)

/-- A number has one canonical form. -/
theorem canonical_unique {n : Nat} {d : Int} (h : Canonical f m e) (hd : Canonical f n d)
    (heq : (m : ℚ) * 2 ^ e = n * 2 ^ d) : m = n ∧ e = d := by
  have hed : e = d := by
    rcases lt_trichotomy e d with hlt | hed | hgt
    · exact absurd heq (significand_lt_of_exponent_lt hd h hlt).ne
    · exact hed
    · exact absurd heq (significand_lt_of_exponent_lt h hd hgt).ne'
  subst hed
  exact ⟨Nat.cast_injective (mul_right_cancel₀ (two_zpow_pos e).ne' heq), rfl⟩

/-- A value other than zero belongs to one number only. -/
theorem eq_finite_of_value? {z : Binary f} {n : Bool} (h : Canonical f m e) (hm : m ≠ 0)
    (hz : z.value? = some (ofRat (signed n (m * 2 ^ e)))) : z = finite n m e h := by
  obtain ⟨hfinite, hexact⟩ := isFinite_of_value? hz
  have hpos : (0 : ℚ) < m * 2 ^ e :=
    mul_pos (Nat.cast_pos.2 (Nat.pos_of_ne_zero hm)) (two_zpow_pos e)
  cases z with
  | nan => cases hfinite
  | infinity _ => cases hfinite
  | finite n' m' e' h' =>
    rw [exact_finite] at hexact
    have hnonneg : (0 : ℚ) ≤ m' * 2 ^ e' := mul_nonneg (Nat.cast_nonneg _) (two_zpow_pos e').le
    have hsame : n' = n ∧ (m' : ℚ) * 2 ^ e' = m * 2 ^ e := by
      cases n' <;> cases n <;> simp only [signed, Bool.false_eq_true, if_false, if_true] at hexact
      · exact ⟨rfl, hexact⟩
      · linarith
      · linarith
      · exact ⟨rfl, neg_inj.1 hexact⟩
    obtain ⟨rfl, hvalue⟩ := hsame
    obtain ⟨rfl, rfl⟩ := canonical_unique h' h hvalue
    rfl

/-- No number lies beyond the largest one. -/
theorem value_lt_of_canonical (hcanonical : Canonical f m e) :
    (m : ℚ) * 2 ^ e < (2 ^ f.precision : ℕ) * 2 ^ f.maxExponent :=
  (mul_lt_mul_of_pos_right (Nat.cast_lt.2 hcanonical.1) (two_zpow_pos e)).trans_le
    (mul_le_mul_of_nonneg_left (two_zpow_le hcanonical.2.2.1) (Nat.cast_nonneg _))

section Conversion

variable [f.Proper] {q : ℚ} (negative : Bool)

/-- A quotient is rounded to a number other than zero exactly if it lies in the interval of the
number. -/
theorem round_eq_finite_iff (hlong : 2 ≤ f.precision) (hm : m ≠ 0) (hden : 0 < den)
    (hcanonical : Canonical f m e) :
    round f negative num den = finite negative m e hcanonical ↔ IsNearest f m e (num / den) := by
  constructor
  · exact isNearest_of_round_eq hlong hm hden
  · intro h
    apply eq_finite_of_value? hcanonical hm
    rw [value?_round negative hden, rounded_eq_of_isNearest hcanonical hm hden h, limited,
      if_pos (value_lt_of_canonical hcanonical)]

/-- The nearest value is the one to which the number is nearest. -/
theorem nearest_of_isNearest (hcanonical : Canonical f m e) (hm : m ≠ 0)
    (h : IsNearest f m e q) :
    nearest f (signed negative q) = ofRat (signed negative (m * 2 ^ e)) := by
  have hq : (q.num.natAbs : ℚ) / q.den = q := by rw [← abs_eq_div, abs_of_pos (h.pos hm)]
  have hlimited : limited f negative (rounded f q.num.natAbs q.den) =
      nearest f (signed negative q) := limited_eq_nearest q.den_pos (by rw [hq])
  rw [← hlimited, rounded_eq_of_isNearest hcanonical hm q.den_pos (hq.symm ▸ h), limited,
    if_pos (value_lt_of_canonical hcanonical)]

/-- A number of another format is converted to the number that is nearest to its value. -/
theorem convert_eq_finite {y : Binary g} (hcanonical : Canonical f m e) (hm : m ≠ 0)
    (hy : y.isFinite = true) (hexact : y.exact = signed negative q) (h : IsNearest f m e q) :
    y.convert f = finite negative m e hcanonical := by
  refine eq_finite_of_value? hcanonical hm ?_
  cases y with
  | nan => cases hy
  | infinity _ => cases hy
  | finite n k d hk =>
    rw [exact_finite] at hexact
    rw [convert, value?_ofScaled, hexact, nearest_of_isNearest negative hcanonical hm h]

end Conversion

/-! ### The error of rounding -/

/-- Rounding to units changes a quotient by half a unit at most. -/
theorem abs_unitsNearest_sub_le (hden : 0 < den) :
    |2 * (unitsNearest num den e * 2 ^ e) - 2 * ((num : ℚ) / den)| ≤ 2 ^ e := by
  have hquotient : (0 : ℚ) ≤ num / den := by positivity
  have hunit := two_zpow_pos e
  -- not more units than these are counted, and each one less is passed
  have hupper := mt (lt_unitsNearest_iff hden).2 (lt_irrefl (unitsNearest num den e))
  rw [not_or, not_lt] at hupper
  have hlower : (2 * (unitsNearest num den e : ℚ) - 1) * 2 ^ e ≤ 2 * ((num : ℚ) / den) := by
    rcases Nat.eq_zero_or_eq_succ_pred (unitsNearest num den e) with hzero | hsucc
    · rw [hzero, Nat.cast_zero]
      linarith
    · rw [hsucc, show (2 * ((unitsNearest num den e).pred.succ : ℚ) - 1) =
        2 * (unitsNearest num den e).pred + 1 by push_cast; ring]
      have hlt : (unitsNearest num den e).pred < unitsNearest num den e := by omega
      rcases (lt_unitsNearest_iff hden).1 hlt with h | ⟨h, -⟩
      · exact h.le
      · exact h.le
  rw [abs_le]
  constructor <;> linarith [hupper.1]

/-- A quotient that is rounded to full length changes by half a last place at most. -/
theorem abs_rounded_sub_mul_le [f.Proper] (hnum : num ≠ 0) (hden : 0 < den)
    (hfull : (2 : ℚ) ^ (f.minExponent + f.precision - 1) ≤ num / den) :
    |rounded f num den - num / den| * 2 ^ f.precision ≤ num / den := by
  have hplace : (2 : ℚ) ^ (placeOf f num den + f.precision - 1) ≤ num / den := by
    by_cases h : placeOf f num den = f.minExponent
    · rw [h]
      exact hfull
    · exact placeOf_le_div hnum hden h
  have herror : 2 * |rounded f num den - num / den| ≤ 2 ^ placeOf f num den := by
    rw [← abs_two, ← abs_mul, mul_sub, rounded, abs_two]
    exact abs_unitsNearest_sub_le hden
  have hpow : (2 : ℚ) ^ placeOf f num den * 2 ^ f.precision =
      2 * 2 ^ (placeOf f num den + f.precision - 1) := by
    rw [← zpow_natCast, ← two_zpow_add, ← zpow_one_add₀ (by norm_num)]
    congr 1
    omega
  have hprecision : (0 : ℚ) ≤ 2 ^ f.precision := by positivity
  have := mul_le_mul_of_nonneg_right herror hprecision
  linarith

theorem limited_of_lt {negative : Bool} {q : ℚ}
    (h : q < (2 ^ f.precision : ℕ) * 2 ^ f.maxExponent) :
    limited f negative q = ofRat (signed negative q) := if_pos h

theorem nearest_of_pos [f.Proper] {q : ℚ} (hq : 0 ≤ q) :
    nearest f q = limited f false (rounded f q.num.natAbs q.den) := by
  rw [nearest, decide_eq_false hq.not_gt]

/-- A value that fits a significand is not changed by rounding. -/
theorem exact_of_value?_fits [f.Proper] {z : Binary f} (hm : m < 2 ^ f.precision)
    (hmin : f.minExponent ≤ e) (hmax : e ≤ f.maxExponent)
    (hz : z.value? = some (nearest f (m * 2 ^ e))) : z.isFinite = true ∧ z.exact = m * 2 ^ e := by
  refine isFinite_of_value? (hz.trans ?_)
  have hnonneg : (0 : ℚ) ≤ m * 2 ^ e := mul_nonneg (Nat.cast_nonneg _) (two_zpow_pos e).le
  have hround := rounded_eq (f := f) (Rat.den_pos ((m : ℚ) * 2 ^ e)) hm hmin
    (by rw [← abs_eq_div, abs_of_nonneg hnonneg])
  have hlt : (m : ℚ) * 2 ^ e < (2 ^ f.precision : ℕ) * 2 ^ f.maxExponent :=
    (mul_lt_mul_of_pos_right (Nat.cast_lt.2 hm) (two_zpow_pos e)).trans_le
      (mul_le_mul_of_nonneg_left (two_zpow_le hmax) (Nat.cast_nonneg _))
  rw [nearest_of_pos hnonneg, hround, limited_of_lt hlt, signed, if_neg (by decide)]

/-- A value in the range of full length changes by half a last place at most. -/
theorem exact_of_value?_nearest [f.Proper] {z : Binary f} {q : ℚ}
    (hlo : (2 : ℚ) ^ (f.minExponent + f.precision - 1) ≤ q)
    (hhi : q ≤ 2 ^ (f.maxExponent + f.precision - 1)) (hz : z.value? = some (nearest f q)) :
    z.isFinite = true ∧ |z.exact - q| * 2 ^ f.precision ≤ q := by
  have hpos : 0 < q := (two_zpow_pos _).trans_le hlo
  have hratio : (q.num.natAbs : ℚ) / q.den = q := by rw [← abs_eq_div, abs_of_pos hpos]
  have hnum : q.num.natAbs ≠ 0 := Int.natAbs_ne_zero.2 (Rat.num_ne_zero.2 hpos.ne')
  have herror := abs_rounded_sub_mul_le (f := f) hnum q.den_pos (hratio.symm ▸ hlo)
  rw [hratio] at herror
  have hp := Format.Proper.precision_pos (f := f)
  have htwo : (2 : ℚ) ≤ 2 ^ f.precision := by
    calc (2 : ℚ) = 2 ^ 1 := (pow_one _).symm
      _ ≤ 2 ^ f.precision := pow_le_pow_right₀ (by norm_num) hp
  have hlt : rounded f q.num.natAbs q.den < (2 ^ f.precision : ℕ) * 2 ^ f.maxExponent := by
    have hclose : |rounded f q.num.natAbs q.den - q| * 2 ≤ q :=
      (mul_le_mul_of_nonneg_left htwo (abs_nonneg _)).trans herror
    calc rounded f q.num.natAbs q.den < 2 * q := by
          have := le_abs_self (rounded f q.num.natAbs q.den - q)
          linarith
      _ ≤ 2 * 2 ^ (f.maxExponent + f.precision - 1) := by linarith
      _ = (2 ^ f.precision : ℕ) * 2 ^ f.maxExponent := by
          rw [Nat.cast_pow, Nat.cast_ofNat, ← zpow_natCast, ← two_zpow_add,
            ← zpow_one_add₀ (by norm_num)]
          congr 1
          omega
  obtain ⟨hfinite, hexact⟩ := isFinite_of_value? (q := rounded f q.num.natAbs q.den)
    (hz.trans (by rw [nearest_of_pos hpos.le, limited_of_lt hlt, signed, if_neg (by decide)]))
  exact ⟨hfinite, by rw [hexact]; exact herror⟩

end CancellationPolicy.Binary

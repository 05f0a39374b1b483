import CancellationPolicy.Proofs.Floating.Quotient

/-!
# Operations round the exact result

The sum, the difference, the product and the quotient of finite numbers have the value that is
nearest to the exact result (`value?_add`, `value?_sub`, `value?_mul`, `value?_div`).  Taking the
nearest value keeps the order (`nearest_mono`) and does not change the value of a number
(`nearest_exact`).  So a result lies between two numbers if the exact one does
(`exact_mem_of_value?`), and a greater divisor has a lesser quotient (`div_le_div_left`).
-/

namespace CancellationPolicy.Binary

open Extended

variable {f : Format} {x y z : Binary f}

/-! ### Exact values -/

/-- The value of a finite number; zero stands for the others. -/
def exact (x : Binary f) : ℚ := x.toRat?.getD 0

/-- A natural scaled by a power of two, as a quotient of naturals. -/
theorem scaled_eq_div (m : Nat) (e : Int) :
    ((m * Nat.pow 2 e.toNat : ℕ) : ℚ) / (Nat.pow 2 (-e).toNat : ℕ) = m * 2 ^ e := by
  have hpos : (0 : ℚ) < 2 ^ (-e).toNat := by positivity
  rw [Nat.pow_eq, Nat.pow_eq]
  push_cast
  rw [two_pow_toNat e, ← mul_assoc, mul_div_cancel_right₀ _ hpos.ne']

theorem exact_finite (n : Bool) (m : Nat) (e : Int) (h : Canonical f m e) :
    (finite n m e h).exact = signed n (m * 2 ^ e) := by
  simp only [exact, toRat?, Option.getD_some, scaled_eq_div]
  rfl

theorem value?_of_isFinite (hx : x.isFinite = true) : x.value? = some (ofRat x.exact) := by
  cases x with
  | nan => cases hx
  | infinity n => cases hx
  | finite n m e h => rw [exact_finite, value?]

/-- A number with a rational value is finite, and this is its exact value. -/
theorem isFinite_of_value? {q : ℚ} (hx : x.value? = some (ofRat q)) :
    x.isFinite = true ∧ x.exact = q := by
  cases x with
  | nan => cases hx
  | infinity n =>
    rw [value?, Option.some.injEq] at hx
    cases n with
    | false => exact absurd hx (ofRat_lt_top q).ne'
    | true => cases hx
  | finite n m e h =>
    rw [value?, Option.some.injEq] at hx
    exact ⟨rfl, (exact_finite n m e h).trans (WithTop.coe_injective (WithBot.coe_injective hx))⟩

/-- Finite numbers are in the order of their exact values. -/
theorem le_iff_exact (hx : x.isFinite = true) (hy : y.isFinite = true) :
    x ≤ y ↔ x.exact ≤ y.exact := by
  rw [le_iff_of_value? (value?_of_isFinite hx), value?_of_isFinite hy]
  simp only [Option.some.injEq, exists_eq_left', ofRat_le_ofRat]

theorem lt_iff_exact (hx : x.isFinite = true) (hy : y.isFinite = true) :
    x < y ↔ x.exact < y.exact := by
  rw [lt_iff_of_value? (value?_of_isFinite hx), value?_of_isFinite hy]
  simp only [Option.some.injEq, exists_eq_left', ofRat_lt_ofRat]

theorem exact_neg (x : Binary f) : (neg x).exact = -x.exact := by
  cases x with
  | nan => simp [neg, exact, toRat?]
  | infinity n => simp [neg, exact, toRat?]
  | finite n m e h =>
    rw [neg, exact_finite, exact_finite]
    cases n <;> simp [signed]

theorem isFinite_neg (x : Binary f) : (neg x).isFinite = x.isFinite := by
  cases x <;> rfl

/-- A number whose value lies between two rationals is finite. -/
theorem exact_mem_of_value? {v : Extended} {a b : ℚ} (hz : z.value? = some v) (ha : ofRat a ≤ v)
    (hb : v ≤ ofRat b) : z.isFinite = true ∧ a ≤ z.exact ∧ z.exact ≤ b := by
  have hfinite : z.isFinite = true := by
    cases z with
    | nan => cases hz
    | finite n m e h => rfl
    | infinity n =>
      rw [value?, Option.some.injEq] at hz
      rw [← hz] at ha hb
      cases n with
      | false => exact absurd hb (not_le.2 (ofRat_lt_top _))
      | true => exact absurd ha (WithBot.not_coe_le_bot _)
  rw [value?_of_isFinite hfinite, Option.some.injEq] at hz
  rw [← hz] at ha hb
  exact ⟨hfinite, ofRat_le_ofRat.1 ha, ofRat_le_ofRat.1 hb⟩

theorem limited_neg_mono {p q : ℚ} (h : p ≤ q) : limited f true q ≤ limited f true p := by
  rw [limited, limited]
  split
  · rename_i hq
    rw [if_pos (h.trans_lt hq)]
    exact ofRat_le_ofRat.2 (neg_le_neg h)
  · exact bot_le

/-! ### Rounding what needs no rounding -/

variable [f.Proper] {num den num' den' m : Nat} {e : Int}

/-- Rounding depends on the quotient alone. -/
theorem rounded_congr (hden : 0 < den) (hden' : 0 < den') (h : (num : ℚ) / den = num' / den') :
    rounded f num den = rounded f num' den' :=
  le_antisymm (rounded_mono hden hden' h.le) (rounded_mono hden' hden h.ge)

/-- A quotient that fits a significand at some exponent in range is not changed by rounding. -/
theorem rounded_eq (hden : 0 < den) (hm : m < 2 ^ f.precision) (he : f.minExponent ≤ e)
    (h : (num : ℚ) / den = m * 2 ^ e) : rounded f num den = m * 2 ^ e := by
  have hden' : (den : ℚ) ≠ 0 := Nat.cast_ne_zero.2 hden.ne'
  rcases Nat.eq_zero_or_pos m with rfl | hpos
  · rw [Nat.cast_zero, zero_mul, div_eq_zero_iff, or_iff_left hden', Nat.cast_eq_zero] at h
    rw [h, rounded_zero, Nat.cast_zero, zero_mul]
  have hnum : num ≠ 0 := by
    rintro rfl
    rw [Nat.cast_zero, zero_div] at h
    exact (mul_pos (Nat.cast_pos.2 hpos) (two_zpow_pos e)).ne h
  -- the last place is not behind that of the significand, so that the quotient is a multiple of it
  have hplace : placeOf f num den ≤ e := by
    have hlt : (num : ℚ) / den < 2 ^ (e + f.precision) := by
      rw [h, add_comm, two_zpow_add]
      refine mul_lt_mul_of_pos_right ?_ (two_zpow_pos e)
      exact_mod_cast hm
    have hlog := (Int.lt_zpow_iff_log_lt (b := 2) (by norm_num) (quotient_pos hnum hden)).1
      (by exact_mod_cast hlt)
    rw [placeOf_eq hnum hden]
    omega
  generalize hp : placeOf f num den = p at hplace
  have hmul : (num : ℚ) / den = (m * 2 ^ (e - p).toNat : ℕ) * 2 ^ p := by
    rw [h]
    push_cast
    rw [mul_assoc, ← zpow_natCast, ← two_zpow_add]
    congr 2
    omega
  rw [rounded, hp, ← h, hmul, Nat.le_antisymm (unitsNearest_le hden hmul.le)
    (le_unitsNearest hden hmul.ge)]

/-! ### The nearest value -/

/-- The value of the number nearest to a rational: an end beyond the largest numbers. -/
def nearest (f : Format) (q : ℚ) : Extended :=
  limited f (decide (q < 0)) (rounded f q.num.natAbs q.den)

theorem abs_eq_div (q : ℚ) : |q| = (q.num.natAbs : ℚ) / q.den := by
  rw [Nat.cast_natAbs, Int.cast_abs]
  nth_rewrite 1 [← q.num_div_den]
  rw [abs_div, Nat.abs_cast]

/-- A rounded quotient with a sign is the nearest value, the sign of zero apart. -/
theorem limited_eq_nearest {negative : Bool} {q : ℚ} (hden : 0 < den)
    (h : signed negative (num / den) = q) :
    limited f negative (rounded f num den) = nearest f q := by
  have hnonneg : (0 : ℚ) ≤ num / den := by positivity
  have habs : (num : ℚ) / den = |q| := by
    rw [← h]
    cases negative <;> simp only [signed, Bool.false_eq_true, if_false, if_true, abs_neg] <;>
      exact (abs_of_nonneg hnonneg).symm
  rw [nearest, rounded_congr hden q.den_pos (habs.trans (abs_eq_div q))]
  rcases eq_or_ne q 0 with rfl | hq
  · simp only [Rat.num_zero, Int.natAbs_zero, rounded_zero, limited_zero]
  · -- only zero can have either sign
    congr 1
    have hpos : (0 : ℚ) < num / den := habs ▸ abs_pos.2 hq
    cases negative with
    | false => rw [← h, signed, if_neg (by decide)]; exact (decide_eq_false hpos.not_gt).symm
    | true => rw [← h, signed, if_pos rfl]; exact (decide_eq_true (neg_lt_zero.2 hpos)).symm

/-- Rounding keeps the order. -/
theorem nearest_mono {p q : ℚ} (h : p ≤ q) : nearest f p ≤ nearest f q := by
  have hround {a b : ℚ} (hab : |a| ≤ |b|) :
      rounded f a.num.natAbs a.den ≤ rounded f b.num.natAbs b.den := by
    rw [abs_eq_div, abs_eq_div] at hab
    exact rounded_mono a.den_pos b.den_pos hab
  have hzero {a : ℚ} : 0 ≤ rounded f a.num.natAbs a.den := rounded_nonneg f _ _
  rw [nearest, nearest]
  rcases lt_or_ge q 0 with hq | hq
  · -- of two negative values the one of greater size is the lesser
    rw [decide_eq_true hq, decide_eq_true (h.trans_lt hq)]
    exact limited_neg_mono (hround (abs_le_abs_of_nonpos hq.le h))
  · rw [decide_eq_false hq.not_gt]
    rcases lt_or_ge p 0 with hp | hp
    · rw [decide_eq_true hp]
      calc limited f true (rounded f p.num.natAbs p.den) ≤ limited f true 0 :=
            limited_neg_mono hzero
        _ = limited f false 0 := by rw [limited_zero, limited_zero]
        _ ≤ _ := limited_mono hzero
    · rw [decide_eq_false hp.not_gt]
      exact limited_mono (hround (abs_le_abs_of_nonneg hp h))

/-- The nearest value to that of a finite number is this value itself. -/
theorem nearest_exact (hx : x.isFinite = true) : nearest f x.exact = ofRat x.exact := by
  cases x with
  | nan => cases hx
  | infinity n => cases hx
  | finite n m e h =>
    have hratio := scaled_eq_div m e
    have hden : 0 < Nat.pow 2 (-e).toNat := Nat.two_pow_pos _
    have hlt : (m : ℚ) * 2 ^ e < (2 ^ f.precision : ℕ) * 2 ^ f.maxExponent :=
      (mul_lt_mul_of_pos_right (Nat.cast_lt.2 h.1) (two_zpow_pos e)).trans_le
        (mul_le_mul_of_nonneg_left (two_zpow_le h.2.2.1) (Nat.cast_nonneg _))
    rw [exact_finite, ← hratio, ← limited_eq_nearest hden rfl, hratio,
      rounded_eq hden h.1 h.2.1 hratio, limited, if_pos hlt]

/-- Rounding does not pass a number from above. -/
theorem le_nearest {q : ℚ} (hx : x.isFinite = true) (h : x.exact ≤ q) :
    ofRat x.exact ≤ nearest f q := nearest_exact hx ▸ nearest_mono h

/-- Rounding does not pass a number from below. -/
theorem nearest_le {q : ℚ} (hx : x.isFinite = true) (h : q ≤ x.exact) :
    nearest f q ≤ ofRat x.exact := nearest_exact hx ▸ nearest_mono h

/-! ### Operations -/

theorem value?_round_eq {negative : Bool} {q : ℚ} (hden : 0 < den)
    (h : signed negative (num / den) = q) :
    (round f negative num den).value? = some (nearest f q) := by
  rw [value?_round negative hden, limited_eq_nearest hden h]

theorem value?_ofScaled (negative : Bool) (m : Nat) (e : Int) :
    (ofScaled f negative m e).value? = some (nearest f (signed negative (m * 2 ^ e))) := by
  refine value?_round_eq (Nat.two_pow_pos _) ?_
  rw [scaled_eq_div]

theorem value?_add (hx : x.isFinite = true) (hy : y.isFinite = true) :
    (x + y).value? = some (nearest f (x.exact + y.exact)) := by
  cases x with
  | nan => cases hx
  | infinity n => cases hx
  | finite a m e h =>
    cases y with
    | nan => cases hy
    | infinity n => cases hy
    | finite b n d h' =>
      -- both numbers are counted in the lesser of their places
      have hsum : signed a (m * 2 ^ e) + signed b (n * 2 ^ d) =
          ((signedUnits a m e (min e d) + signedUnits b n d (min e d) : ℤ) : ℚ) * 2 ^ min e d := by
        rw [Int.cast_add, add_mul, signedUnits_mul a m (min_le_left e d),
          signedUnits_mul b n (min_le_right e d)]
      rw [exact_finite, exact_finite, hsum]
      show (add _ _).value? = _
      rw [add]
      generalize signedUnits a m e (min e d) + signedUnits b n d (min e d) = s
      split
      · rename_i hs
        rw [hs, value?_zero, Int.cast_zero, zero_mul, nearest, Rat.num_zero, Int.natAbs_zero,
          rounded_zero, limited_zero]
      · rw [value?_ofScaled, signed_mul]
        congr 3
        rw [Nat.cast_natAbs, Int.cast_abs]
        by_cases hs : s < 0
        · rw [signed, if_pos (decide_eq_true hs), abs_of_neg (Int.cast_lt_zero.2 hs), neg_neg]
        · rw [signed, if_neg (by simpa using hs), abs_of_nonneg (Int.cast_nonneg (not_lt.1 hs))]

/-- A difference of finite numbers is the exact one, rounded. -/
theorem value?_sub (hx : x.isFinite = true) (hy : y.isFinite = true) :
    (x - y).value? = some (nearest f (x.exact - y.exact)) := by
  rw [sub_eq_add_neg, ← exact_neg]
  exact value?_add hx ((isFinite_neg y).trans hy)

theorem signed_mul_signed (a b : Bool) (p q : ℚ) :
    signed a p * signed b q = signed (a != b) (p * q) := by
  cases a <;> cases b <;> simp [signed]

/-- A product of finite numbers is the exact one, rounded. -/
theorem value?_mul (hx : x.isFinite = true) (hy : y.isFinite = true) :
    (x * y).value? = some (nearest f (x.exact * y.exact)) := by
  cases x with
  | nan => cases hx
  | infinity n => cases hx
  | finite a m e h =>
    cases y with
    | nan => cases hy
    | infinity n => cases hy
    | finite b n d h' =>
      rw [exact_finite, exact_finite, signed_mul_signed]
      show (ofScaled f (a != b) (m * n) (e + d)).value? = _
      rw [value?_ofScaled, two_zpow_add, Nat.cast_mul, mul_mul_mul_comm]

theorem value?_div (hx : x.isFinite = true) (hy : y.isFinite = true) (hne : y.exact ≠ 0) :
    (x / y).value? = some (nearest f (x.exact / y.exact)) := by
  cases x with
  | nan => cases hx
  | infinity n => cases hx
  | finite a m e h =>
    cases y with
    | nan => cases hy
    | infinity n => cases hy
    | finite b n d h' =>
      -- the divisor is not zero, so its significand is not
      have hn : n ≠ 0 := by
        rintro rfl
        rw [exact_finite] at hne
        cases b <;> simp [signed] at hne
      obtain ⟨num, den, hden, hratio, hdiv⟩ := exists_div_eq_round a b h h' hn
      rw [hdiv, exact_finite, exact_finite]
      refine value?_round_eq hden ?_
      rw [hratio, signed_div_signed]

/-- A greater divisor has a lesser quotient, if both are finite and positive. -/
theorem div_le_div_left (hx : 0 ≤ x) (hy : 0 < y) (hle : y ≤ z) (hz : z.isFinite = true) :
    x / z ≤ x / y := by
  obtain ⟨v, hv, hpos⟩ := zero_lt_iff.1 hy
  have hfinite : y.isFinite = true := isFinite_of_le (zero_le_iff.2 ⟨v, hv, hpos.le⟩) hle hz
  cases x with
  | nan => exact absurd hx (not_le_nan 0)
  | infinity a =>
    -- what is infinite stays infinite, with the sign that it has
    have hquotient {w : Binary f} (hw : 0 < w) (hw' : w.isFinite = true) :
        infinity a / w = infinity (a != false) := by
      rcases eq_of_zero_lt hw with rfl | ⟨n, d, h, rfl, -⟩
      · cases hw'
      · rfl
    rw [hquotient hy hfinite, hquotient (lt_of_lt_of_le hy hle) hz]
    exact le_iff.2 ⟨_, rfl, _, rfl, le_rfl⟩
  | finite a m e h =>
    have hexact : 0 < y.exact := by
      rw [value?_of_isFinite hfinite] at hv
      obtain rfl := Option.some.inj hv
      exact ofRat_lt_ofRat.1 hpos
    have hle' : y.exact ≤ z.exact := (le_iff_exact hfinite hz).1 hle
    have hx' : 0 ≤ (finite a m e h).exact := by
      rw [exact_finite]
      exact zero_le_finite.1 hx
    refine le_iff.2 ⟨_, value?_div rfl hz (hexact.trans_le hle').ne', _,
      value?_div rfl hfinite hexact.ne', nearest_mono ?_⟩
    exact div_le_div_of_nonneg_left hx' hexact hle'

/-! ### Zero and one -/

theorem exact_zero : (0 : Single).exact = 0 := by decide +kernel

theorem exact_one : (1 : Single).exact = 1 := by decide +kernel

theorem exact_nonneg {x : Single} (hx : x.isFinite = true) (h : 0 ≤ x) : 0 ≤ x.exact := by
  rw [le_iff_exact (by decide +kernel) hx, exact_zero] at h
  exact h

theorem exact_le_one {x : Single} (hx : x.isFinite = true) (h : x ≤ 1) : x.exact ≤ 1 := by
  rw [le_iff_exact hx (by decide +kernel), exact_one] at h
  exact h

end CancellationPolicy.Binary

import CancellationPolicy.Proofs.Floating.Rounding

/-!
# Quotients keep the order

Dividing by a positive number, which may be infinite, keeps the order of numbers from zero on, as
long as they are finite (`div_le_div`).  An infinite number divided by an infinite one has no value.
-/

namespace CancellationPolicy.Binary

open Extended

variable {f : Format} {x x' y : Binary f} {a : Bool} {m n : Nat} {e d : Int}
  {h : Canonical f m e}

/-! ### Exact quotients -/

/-- The quotient of finite numbers is that of two naturals, rounded. -/
theorem exists_div_eq_round (a b : Bool) (h : Canonical f m e) (h' : Canonical f n d)
    (hn : n ≠ 0) :
    ∃ num den : Nat, 0 < den ∧ (num : ℚ) / den = m * 2 ^ e / (n * 2 ^ d) ∧
      finite a m e h / finite b n d h' = round f (a != b) num den := by
  refine ⟨m * 2 ^ (e - min e d).toNat, n * 2 ^ (d - min e d).toNat,
    Nat.mul_pos (Nat.pos_of_ne_zero hn) (Nat.two_pow_pos _), ?_, if_neg hn⟩
  -- both exponents are counted from the lesser one, which then cancels
  have hscale (i : Int) (hi : min e d ≤ i) :
      (2 : ℚ) ^ i = 2 ^ (i - min e d).toNat * 2 ^ min e d := by
    rw [← zpow_natCast, ← two_zpow_add]
    congr 1
    omega
  rw [hscale e (min_le_left e d), hscale d (min_le_right e d), ← mul_assoc, ← mul_assoc,
    mul_div_mul_right _ _ (two_zpow_pos _).ne']
  push_cast
  rfl

/-! ### Numbers from zero on -/

variable [f.Proper]

theorem value?_zero (negative : Bool) : (zero f negative).value? = some 0 := by
  rw [zero, value?_ofParts negative (Nat.two_pow_pos _) le_rfl (fun h => absurd rfl h),
    Nat.cast_zero, zero_mul, limited_zero]

theorem zero_le_iff : 0 ≤ x ↔ ∃ a, x.value? = some a ∧ 0 ≤ a :=
  le_iff_of_value? (value?_zero false)

theorem zero_lt_iff : 0 < x ↔ ∃ a, x.value? = some a ∧ 0 < a :=
  lt_iff_of_value? (value?_zero false)

theorem zero_le_round {den : Nat} (num : Nat) (hden : 0 < den) : 0 ≤ round f false num den :=
  zero_le_iff.2 ⟨_, value?_round false hden, zero_le_limited (rounded_nonneg f num den)⟩

/-- A number between zero and a finite one is finite. -/
theorem isFinite_of_le (hx : 0 ≤ x) (h : x ≤ y) (hy : y.isFinite = true) : x.isFinite = true := by
  obtain ⟨a, ha, hpos⟩ := zero_le_iff.1 hx
  obtain ⟨b, hb, hle⟩ := (le_iff_of_value? ha).1 h
  cases x with
  | nan => cases ha
  | finite n m e hc => rfl
  | infinity n =>
    cases y with
    | nan => cases hy
    | infinity k => cases hy
    | finite k l d hc =>
      cases ha
      cases hb
      cases n with
      | true => exact absurd hpos (by decide)
      | false => exact absurd hle (not_le.2 (ofRat_lt_top _))

theorem zero_le_finite : 0 ≤ finite a m e h ↔ 0 ≤ signed a (m * 2 ^ e) := by
  rw [zero_le_iff]
  simp only [value?, Option.some.injEq, exists_eq_left', ← ofRat_zero, ofRat_le_ofRat]

theorem zero_lt_finite : 0 < finite a m e h ↔ 0 < signed a (m * 2 ^ e) := by
  rw [zero_lt_iff]
  simp only [value?, Option.some.injEq, exists_eq_left', ← ofRat_zero, ofRat_lt_ofRat]

/-- Only zero has a minus sign and is not below zero. -/
theorem eq_zero_of_zero_le (hx : 0 ≤ finite true m e h) : m = 0 := by
  have hle : (0 : ℚ) ≤ -(m * 2 ^ e) := zero_le_finite.1 hx
  rw [neg_nonneg] at hle
  have hm : (m : ℚ) ≤ 0 := nonpos_of_mul_nonpos_left hle (two_zpow_pos e)
  exact Nat.le_zero.1 (by exact_mod_cast hm)

/-- What lies above zero is a finite number with a plus sign that is not zero, or infinite. -/
theorem eq_of_zero_lt (hy : 0 < y) :
    y = infinity false ∨ ∃ n d, ∃ h : Canonical f n d, y = finite false n d h ∧ n ≠ 0 := by
  cases y with
  | nan =>
    obtain ⟨b, hb, -⟩ := zero_lt_iff.1 hy
    cases hb
  | infinity a =>
    cases a with
    | false => exact .inl rfl
    | true =>
      obtain ⟨b, hb, hpos⟩ := zero_lt_iff.1 hy
      cases hb
      exact absurd hpos (by decide)
  | finite a n d hc =>
    have hpos := zero_lt_finite.1 hy
    have hnonneg : (0 : ℚ) ≤ n * 2 ^ d := mul_nonneg (Nat.cast_nonneg n) (two_zpow_pos d).le
    cases a with
    | false =>
      refine .inr ⟨n, d, hc, rfl, ?_⟩
      rintro rfl
      simp [signed] at hpos
    | true => exact absurd hpos (not_lt.2 (neg_nonpos.2 hnonneg))

/-! ### Rounded quotients -/

/-- Dividing finite numbers from zero on by a positive one scales them, and rounds. -/
theorem exists_value?_div (hy : 0 < y) :
    ∃ c : ℚ, 0 ≤ c ∧ ∀ {a m e h}, 0 ≤ finite (f := f) a m e h →
      ∃ num den : Nat, 0 < den ∧ (num : ℚ) / den = signed a (m * 2 ^ e) * c ∧
        (finite a m e h / y).value? = some (limited f false (rounded f num den)) := by
  rcases eq_of_zero_lt hy with rfl | ⟨n, d, h', rfl, hn⟩
  · -- an infinite divisor makes every quotient zero
    refine ⟨0, le_rfl, fun _ => ⟨0, 1, Nat.one_pos, by simp, ?_⟩⟩
    rw [rounded_zero, limited_zero]
    exact value?_zero _
  · refine ⟨(n * 2 ^ d)⁻¹,
      inv_nonneg.2 (mul_nonneg (Nat.cast_nonneg n) (two_zpow_pos d).le), ?_⟩
    intro a m e h hx
    obtain ⟨num, den, hden, hratio, hdiv⟩ := exists_div_eq_round a false h h' hn
    cases a with
    | false =>
      refine ⟨num, den, hden, hratio.trans (div_eq_mul_inv _ _), ?_⟩
      rw [hdiv]
      exact value?_round false hden
    | true =>
      obtain rfl := eq_zero_of_zero_le hx
      rw [Nat.cast_zero, zero_mul, zero_div, div_eq_zero_iff] at hratio
      have hnum : num = 0 := by
        exact_mod_cast hratio.resolve_right (Nat.cast_ne_zero.2 hden.ne')
      refine ⟨0, den, hden, by simp [signed], ?_⟩
      rw [hdiv, value?_round _ hden, hnum, rounded_zero, limited_zero, limited_zero]

theorem zero_le_div (hx : 0 ≤ x) (hfinite : x.isFinite = true) (hy : 0 < y) : 0 ≤ x / y := by
  obtain ⟨c, -, hdiv⟩ := exists_value?_div hy
  cases x with
  | nan => cases hfinite
  | infinity a => cases hfinite
  | finite a m e h =>
    obtain ⟨num, den, -, -, hvalue⟩ := hdiv hx
    exact zero_le_iff.2 ⟨_, hvalue, zero_le_limited (rounded_nonneg f num den)⟩

/-- A quotient grows with the dividend. -/
theorem div_le_div (hx : 0 ≤ x) (hx' : x'.isFinite = true) (hy : 0 < y) (hle : x ≤ x') :
    x / y ≤ x' / y := by
  have hfinite := isFinite_of_le hx hle hx'
  obtain ⟨c, hc, hdiv⟩ := exists_value?_div hy
  cases x with
  | nan => cases hfinite
  | infinity a => cases hfinite
  | finite a m e h =>
    cases x' with
    | nan => cases hx'
    | infinity b => cases hx'
    | finite b k l h' =>
      -- both quotients round the dividend times the same factor
      obtain ⟨num, den, hden, hratio, hvalue⟩ := hdiv hx
      obtain ⟨num', den', hden', hratio', hvalue'⟩ := hdiv (le_trans hx hle)
      refine le_iff.2 ⟨_, hvalue, _, hvalue', limited_mono (rounded_mono hden hden' ?_)⟩
      rw [hratio, hratio']
      exact mul_le_mul_of_nonneg_right (finite_le_finite.1 hle) hc

end CancellationPolicy.Binary

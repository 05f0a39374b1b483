import CancellationPolicy.Proofs.Floating.Operations

/-!
# Sums of numbers from zero on

Numbers from zero on are finite or the infinite number with a plus sign (`nonneg_cases`).  Their
sums are such numbers (`zero_le_add`) and keep the order (`add_mono`), also where they are infinite.
A sum is finite only if both numbers are (`isFinite_of_add`).
-/

namespace CancellationPolicy.Binary

open Extended

variable {f : Format} {x y u v : Binary f}

/-- A finite sum has finite summands. -/
theorem isFinite_of_add (h : (x + y).isFinite = true) :
    x.isFinite = true ∧ y.isFinite = true := by
  change (add x y).isFinite = true at h
  cases x with
  | nan => cases h
  | infinity a =>
    cases y with
    | nan => cases h
    | infinity b =>
      rw [add] at h
      split at h <;> cases h
    | finite b n d h' => cases h
  | finite a m e h =>
    cases y with
    | nan => cases h
    | infinity b => cases h
    | finite b n d h' => exact ⟨rfl, rfl⟩

/-- Only infinity is at least infinity. -/
theorem infinity_le (h : infinity false ≤ x) : x = infinity false := by
  obtain ⟨a, ha, hle⟩ := (le_iff_of_value? rfl).1 h
  cases x with
  | nan => cases ha
  | finite n m e hc =>
    cases ha
    exact absurd hle (not_le.2 (ofRat_lt_top _))
  | infinity n =>
    cases n with
    | false => rfl
    | true =>
      cases ha
      exact absurd hle (by decide)

variable [f.Proper]

theorem isFinite_zero : (0 : Binary f).isFinite = true := (isFinite_of_value? (value?_zero false)).1

theorem exact_eq_zero : (0 : Binary f).exact = 0 := (isFinite_of_value? (value?_zero false)).2

theorem zero_le_iff_exact (hx : x.isFinite = true) : 0 ≤ x ↔ 0 ≤ x.exact := by
  rw [le_iff_exact isFinite_zero hx, exact_eq_zero]

/-! ### Infinite numbers -/

/-- A number that is not negative is infinite or has an exact value that is not negative. -/
theorem nonneg_cases (h : 0 ≤ x) : x = infinity false ∨ x.isFinite = true ∧ 0 ≤ x.exact := by
  cases x with
  | nan => exact absurd h (not_le_nan _)
  | finite n m e hc => exact .inr ⟨rfl, (zero_le_iff_exact rfl).1 h⟩
  | infinity n =>
    cases n with
    | false => exact .inl rfl
    | true =>
      obtain ⟨a, ha, hle⟩ := zero_le_iff.1 h
      cases ha
      exact absurd hle (by decide)

theorem eq_infinity (h : 0 ≤ x) (hx : x.isFinite = false) : x = infinity false := by
  rcases nonneg_cases h with rfl | ⟨hfinite, -⟩
  · rfl
  · rw [hx] at hfinite
    cases hfinite

theorem le_infinity (h : 0 ≤ x) : x ≤ infinity false := by
  obtain ⟨a, ha, -⟩ := zero_le_iff.1 h
  exact (le_iff_of_value? ha).2 ⟨⊤, rfl, le_top⟩

theorem infinity_add (h : 0 ≤ x) : infinity false + x = infinity false := by
  rcases nonneg_cases h with rfl | ⟨hfinite, -⟩
  · rfl
  · cases x with
    | nan => cases hfinite
    | infinity n => cases hfinite
    | finite n m e hc => rfl

theorem add_infinity (h : 0 ≤ x) : x + infinity false = infinity false := by
  rcases nonneg_cases h with rfl | ⟨hfinite, -⟩
  · rfl
  · cases x with
    | nan => cases hfinite
    | infinity n => cases hfinite
    | finite n m e hc => rfl

/-! ### Sums -/

/-- A sum of numbers that are not negative is not negative. -/
theorem zero_le_add (hx : 0 ≤ x) (hy : 0 ≤ y) : 0 ≤ x + y := by
  rcases nonneg_cases hx with rfl | ⟨hfinite, hpos⟩
  · rw [infinity_add hy]
    exact hx
  rcases nonneg_cases hy with rfl | ⟨hfinite', hpos'⟩
  · rw [add_infinity hx]
    exact hy
  · refine zero_le_iff.2 ⟨_, value?_add hfinite hfinite', ?_⟩
    rw [← ofRat_zero, ← exact_eq_zero (f := f)]
    refine le_nearest isFinite_zero ?_
    rw [exact_eq_zero]
    exact add_nonneg hpos hpos'

theorem add_mono (hx : 0 ≤ x) (hxy : x ≤ y) (hu : 0 ≤ u) (huv : u ≤ v) : x + u ≤ y + v := by
  have hy := le_trans hx hxy
  have hv := le_trans hu huv
  -- with an infinite bound there is nothing to compare
  rcases nonneg_cases hy with rfl | ⟨hyfinite, -⟩
  · rw [infinity_add hv]
    exact le_infinity (zero_le_add hx hu)
  rcases nonneg_cases hv with rfl | ⟨hvfinite, -⟩
  · rw [add_infinity hy]
    exact le_infinity (zero_le_add hx hu)
  · -- lesser numbers are finite too, so that both sums round exact ones
    have hxfinite := isFinite_of_le hx hxy hyfinite
    have hufinite := isFinite_of_le hu huv hvfinite
    refine le_iff.2 ⟨_, value?_add hxfinite hufinite, _, value?_add hyfinite hvfinite, ?_⟩
    exact nearest_mono (add_le_add ((le_iff_exact hxfinite hyfinite).1 hxy)
      ((le_iff_exact hufinite hvfinite).1 huv))

/-- Adding what is not negative makes a number no less. -/
theorem le_add (hx : 0 ≤ x) (hy : 0 ≤ y) : x ≤ x + y := by
  rcases nonneg_cases hx with rfl | ⟨hfinite, hpos⟩
  · rw [infinity_add hy]
    exact le_infinity hx
  rcases nonneg_cases hy with rfl | ⟨hfinite', hpos'⟩
  · rw [add_infinity hx]
    exact le_infinity hx
  · exact le_iff.2 ⟨_, value?_of_isFinite hfinite, _, value?_add hfinite hfinite',
      le_nearest hfinite (le_add_of_nonneg_right hpos')⟩

end CancellationPolicy.Binary

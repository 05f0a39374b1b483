import CancellationPolicy.Json.Numeral
import CancellationPolicy.Proofs.Floating.Separation
import CancellationPolicy.Proofs.Floating.Shortest

/-!
# The error of reading a decimal

A decimal is read as a significand that is multiplied or divided by a power of ten.  Both the power
and the result are rounded, so the number that is read differs from the decimal by at most one part
in `Separation.parts` (`exists_reads`).  A power of up to twenty-two places needs no rounding, and a
decimal that is a binary fraction has no more places (`natAbs_le_of_eq`), so it is read exactly.
-/

namespace CancellationPolicy.Json.Numeral

open Binary Separation

/-! ### Two rounded steps -/

/-- Two errors that add up: the one of an intermediate result and the one of rounding it. -/
theorem abs_sub_le_of_steps {y q d : ℚ} (hd : 0 ≤ d) (hq : |q - d| * (2 ^ 53 - 1) ≤ d)
    (hy : |y - q| * 2 ^ 53 ≤ q) : |y - d| * parts ≤ d := by
  have hstep : |y - d| ≤ |y - q| + |q - d| := by
    calc |y - d| = |(y - q) + (q - d)| := by rw [sub_add_sub_cancel]
      _ ≤ |y - q| + |q - d| := abs_add_le _ _
  have hqd := le_abs_self (q - d)
  simp only [parts]
  generalize |q - d| = u at *
  generalize |y - q| = v at *
  generalize |y - d| = w at *
  norm_num at *
  linarith

/-- The error of a rounded product with a rounded factor. -/
theorem abs_mul_sub_le {s p t y : ℚ} (hs : 0 ≤ s) (ht : 0 ≤ t) (hp : |p - t| * 2 ^ 53 ≤ t)
    (hy : |y - s * p| * 2 ^ 53 ≤ s * p) : |y - s * t| * parts ≤ s * t := by
  refine abs_sub_le_of_steps (mul_nonneg hs ht) ?_ hy
  rw [← mul_sub, abs_mul, abs_of_nonneg hs, mul_assoc]
  refine mul_le_mul_of_nonneg_left ?_ hs
  have := abs_nonneg (p - t)
  linarith

/-- The error of a rounded quotient by a rounded divisor. -/
theorem abs_div_sub_le {s p t y : ℚ} (hs : 0 ≤ s) (ht : 0 < t) (hp : |p - t| * 2 ^ 53 ≤ t)
    (hy : |y - s / p| * 2 ^ 53 ≤ s / p) : |y - s / t| * parts ≤ s / t := by
  refine abs_sub_le_of_steps (div_nonneg hs ht.le) ?_ hy
  -- the relative error in terms of the rounded divisor
  have hclose : |p - t| * (2 ^ 53 - 1) ≤ p := by
    have := neg_abs_le (p - t)
    linarith
  have hpos : 0 < p := by
    have := neg_abs_le (p - t)
    linarith
  have hsub : s / p - s / t = s / t * ((t - p) / p) := by
    field_simp
  have hratio : |p - t| / p * (2 ^ 53 - 1) ≤ 1 := by
    rw [div_mul_eq_mul_div]
    exact (div_le_one hpos).2 hclose
  rw [hsub, abs_mul, abs_of_nonneg (div_nonneg hs ht.le), abs_div, abs_of_pos hpos, abs_sub_comm,
    mul_assoc]
  exact mul_le_of_le_one_right (div_nonneg hs ht.le) hratio

/-! ### Powers of ten -/

/-- A value of medium size is rounded with an error of half a last place at most. -/
theorem exact_of_medium {z : Double} {q : ℚ} (hlo : (2 : ℚ) ^ (-300 : ℤ) ≤ q)
    (hhi : q ≤ 2 ^ (300 : ℤ)) (hz : z.value? = some (nearest .double q)) :
    z.isFinite = true ∧ |z.exact - q| * 2 ^ 53 ≤ q :=
  exact_of_value?_nearest ((two_zpow_le (by decide)).trans hlo)
    (hhi.trans (two_zpow_le (by decide))) hz

/-- A power of ten is rounded to a finite number. -/
theorem tenPower_spec {n : Nat} (hn : n ≤ 60) :
    (tenPower n).isFinite = true ∧ |(tenPower n).exact - 10 ^ n| * 2 ^ 53 ≤ 10 ^ n := by
  have hvalue : (tenPower n).value? = some (nearest .double (10 ^ n)) := by
    refine value?_round_eq Nat.one_pos ?_
    rw [signed, if_neg (by decide), Nat.pow_eq]
    push_cast
    rw [div_one]
  have hone : (1 : ℚ) ≤ 10 ^ n := one_le_pow₀ (by norm_num)
  have hle : (10 : ℚ) ^ n ≤ 10 ^ 60 := pow_le_pow_right₀ (by norm_num) hn
  refine exact_of_medium ?_ ?_ hvalue
  · exact (two_zpow_le (show (-300 : ℤ) ≤ 0 by decide)).trans (by rwa [zpow_zero])
  · refine hle.trans (le_trans ?_ (two_zpow_le (show (200 : ℤ) ≤ 300 by decide)))
    norm_num

/-- A rounded power of ten is far from both ends of the range. -/
theorem exact_tenPower_bounds {n : Nat} (hn : n ≤ 60) :
    1 / 2 ≤ (tenPower n).exact ∧ (tenPower n).exact ≤ 2 ^ 201 := by
  obtain ⟨-, herror⟩ := tenPower_spec hn
  have hone : (1 : ℚ) ≤ 10 ^ n := one_le_pow₀ (by norm_num)
  have hle : (10 : ℚ) ^ n ≤ 2 ^ 200 := by
    calc (10 : ℚ) ^ n ≤ 10 ^ 60 := pow_le_pow_right₀ (by norm_num) hn
      _ ≤ 2 ^ 200 := by norm_num
  have hlow := neg_abs_le ((tenPower n).exact - 10 ^ n)
  have hhigh := le_abs_self ((tenPower n).exact - 10 ^ n)
  constructor <;> linarith

/-- A power of up to twenty-two places is exact, as its odd part fits into a significand. -/
theorem exact_tenPower {n : Nat} (hn : n ≤ 22) : (tenPower n).exact = 10 ^ n := by
  have hvalue : (tenPower n).value? = some (nearest .double ((5 ^ n : ℕ) * 2 ^ (n : ℤ))) := by
    refine value?_round_eq Nat.one_pos ?_
    rw [signed, if_neg (by decide), Nat.pow_eq]
    push_cast
    rw [div_one, zpow_natCast, ← mul_pow]
    norm_num
  have hlt : 5 ^ n < 2 ^ Format.double.precision := by
    calc 5 ^ n ≤ 5 ^ 22 := Nat.pow_le_pow_right (by decide) hn
      _ < 2 ^ 53 := by norm_num
  rw [(exact_of_value?_fits hlt (by simp only [Format.double]; omega)
    (by simp only [Format.double]; omega) hvalue).2]
  push_cast
  rw [zpow_natCast, ← mul_pow]
  norm_num

theorem exact_ofNat {n : Nat} (hn : n < 2 ^ 53) :
    (Binary.ofNat .double n).isFinite = true ∧ (Binary.ofNat .double n).exact = n := by
  have hvalue : (Binary.ofNat .double n).value? = some (nearest .double (n * 2 ^ (0 : ℤ))) := by
    refine value?_round_eq Nat.one_pos ?_
    rw [signed, if_neg (by decide), zpow_zero, Nat.cast_one, div_one, mul_one]
  have := exact_of_value?_fits hn (by decide) (by decide) hvalue
  rwa [zpow_zero, mul_one] at this

/-! ### Binary fractions -/

/-- A decimal that is a binary fraction has few places. -/
theorem natAbs_le_of_eq {s h : Nat} {a g : Int} (hs : s ≠ 0) (hlt : s < 2 ^ 53) (hh : h < 2 ^ 53)
    (heq : (s : ℚ) * 10 ^ a = h * 2 ^ g) : a.natAbs ≤ 22 := by
  -- both sides without denominators
  have hclear : s * 10 ^ a.toNat * 2 ^ (-g).toNat = h * 2 ^ g.toNat * 10 ^ (-a).toNat := by
    rw [← Nat.cast_inj (R := ℚ)]
    push_cast
    rw [ten_pow_toNat a, two_pow_toNat g]
    calc (s : ℚ) * (10 ^ a * 10 ^ (-a).toNat) * 2 ^ (-g).toNat
        = s * 10 ^ a * (10 ^ (-a).toNat * 2 ^ (-g).toNat) := by ring
      _ = h * (2 ^ g * 2 ^ (-g).toNat) * 10 ^ (-a).toNat := by rw [heq]; ring
  -- no significand has more than twenty-two factors of five
  have hpow {x n : Nat} (hx : x ≠ 0) (hxlt : x < 2 ^ 53) (hdvd : 5 ^ n ∣ x) : n ≤ 22 := by
    by_contra hn
    have hle := Nat.le_of_dvd (Nat.pos_of_ne_zero hx) hdvd
    have hmono : 5 ^ 23 ≤ 5 ^ n := Nat.pow_le_pow_right (by decide) (by omega)
    norm_num at hmono hxlt
    omega
  have hcoprime (n k : Nat) : Nat.Coprime (5 ^ n) (2 ^ k) :=
    Nat.Coprime.pow n k (by decide)
  have hten (n : Nat) : 5 ^ n ∣ 10 ^ n := pow_dvd_pow_of_dvd (by decide) n
  rcases le_total 0 a with ha | ha
  · obtain ⟨n, rfl⟩ := Int.eq_ofNat_of_zero_le ha
    rw [Int.toNat_natCast, show (-(n : Int)).toNat = 0 by omega, pow_zero, Nat.mul_one] at hclear
    have hne : h ≠ 0 := by
      rintro rfl
      rw [Nat.zero_mul] at hclear
      exact Nat.mul_ne_zero (Nat.mul_ne_zero hs (by positivity)) (by positivity) hclear
    refine hpow hne hh ((hcoprime n g.toNat).dvd_of_dvd_mul_right ?_)
    rw [← hclear]
    exact ((hten n).mul_left s).mul_right _
  · obtain ⟨n, hn⟩ := Int.eq_ofNat_of_zero_le (Int.neg_nonneg_of_nonpos ha)
    rw [hn, Int.toNat_natCast, show a.toNat = 0 by omega, pow_zero, Nat.mul_one] at hclear
    rw [← Int.natAbs_neg, hn, Int.natAbs_natCast]
    refine hpow hs hlt ((hcoprime n (-g).toNat).dvd_of_dvd_mul_right ?_)
    rw [hclear]
    exact (hten n).mul_left _

/-! ### Reading -/

/-- The exact result of scaling by a rounded power of ten. -/
def scaled (s : Nat) (a : Int) : ℚ :=
  if 0 ≤ a then s * (tenPower a.natAbs).exact else s / (tenPower a.natAbs).exact

/-- With up to twenty-two places, nothing is rounded before the result. -/
theorem scaled_eq {s : Nat} {a : Int} (ha : a.natAbs ≤ 22) : scaled s a = s * 10 ^ a := by
  rw [scaled, exact_tenPower ha]
  split
  · rename_i h
    obtain ⟨n, rfl⟩ := Int.eq_ofNat_of_zero_le h
    rw [Int.natAbs_natCast, zpow_natCast]
  · rename_i h
    obtain ⟨n, hn⟩ := Int.eq_ofNat_of_zero_le (show 0 ≤ -a by omega)
    rw [← Int.natAbs_neg, hn, Int.natAbs_natCast, div_eq_mul_inv, ← zpow_natCast, ← hn, zpow_neg,
      inv_inv]

theorem not_isInfinite {f : Format} {x : Binary f} (h : x.isFinite = true) :
    ¬x.isInfinite = true := by
  cases x with
  | nan => cases h
  | infinity _ => cases h
  | finite => simp [isInfinite]

/-- What scaling makes of a significand. -/
def ScalesTo (s : Nat) (a : Int) (z : Double) : Prop :=
  scale? 5 (Binary.ofNat .double s) a = some z ∧ z.isFinite = true ∧
    z.value? = some (nearest .double (scaled s a)) ∧ |z.exact - s * 10 ^ a| * parts ≤ s * 10 ^ a

/-- A significand is multiplied by a power of ten with an error within the bound. -/
theorem exists_scalesTo_of_nonneg {s : Nat} {a : Int} (hs : s ≠ 0) (hlt : s < 2 ^ 53)
    (ha : a.natAbs ≤ 60) (hnonneg : 0 ≤ a) : ∃ z, ScalesTo s a z := by
  obtain ⟨hsfinite, hsexact⟩ := exact_ofNat hlt
  obtain ⟨hpfinite, hperror⟩ := tenPower_spec ha
  obtain ⟨hplo, hphi⟩ := exact_tenPower_bounds ha
  have hone : (1 : ℚ) ≤ s := by exact_mod_cast Nat.pos_of_ne_zero hs
  have hs' : (s : ℚ) ≤ 2 ^ 53 := by exact_mod_cast hlt.le
  have hvalue := value?_mul hsfinite hpfinite
  rw [hsexact] at hvalue
  -- the product is far from both ends of the range
  have hlo : (2 : ℚ) ^ (-300 : ℤ) ≤ s * (tenPower a.natAbs).exact := by
    calc (2 : ℚ) ^ (-300 : ℤ) ≤ 2 ^ (-1 : ℤ) := two_zpow_le (by decide)
      _ ≤ s * (tenPower a.natAbs).exact := by rw [zpow_neg_one]; nlinarith
  have hhi : s * (tenPower a.natAbs).exact ≤ 2 ^ (300 : ℤ) := by
    calc s * (tenPower a.natAbs).exact ≤ 2 ^ 53 * 2 ^ 201 :=
          mul_le_mul hs' hphi (by linarith) (by positivity)
      _ = 2 ^ (254 : ℤ) := by norm_num
      _ ≤ 2 ^ (300 : ℤ) := two_zpow_le (by decide)
  obtain ⟨hfinite, herror⟩ := exact_of_medium hlo hhi hvalue
  have hten : (s : ℚ) * 10 ^ a = s * 10 ^ a.natAbs := by
    rw [← zpow_natCast, Int.natAbs_of_nonneg hnonneg]
  refine ⟨_, ?_, hfinite, ?_, ?_⟩
  · rw [scale?, if_pos (by omega), if_pos hnonneg]
    exact if_neg (not_isInfinite hfinite)
  · rw [scaled, if_pos hnonneg]
    exact hvalue
  · rw [hten]
    exact abs_mul_sub_le (by linarith) (by positivity) hperror herror

/-- A significand is divided by a power of ten with an error within the bound. -/
theorem exists_scalesTo_of_neg {s : Nat} {a : Int} (hs : s ≠ 0) (hlt : s < 2 ^ 53)
    (ha : a.natAbs ≤ 60) (hneg : a < 0) : ∃ z, ScalesTo s a z := by
  obtain ⟨hsfinite, hsexact⟩ := exact_ofNat hlt
  obtain ⟨hpfinite, hperror⟩ := tenPower_spec ha
  obtain ⟨hplo, hphi⟩ := exact_tenPower_bounds ha
  have hone : (1 : ℚ) ≤ s := by exact_mod_cast Nat.pos_of_ne_zero hs
  have hs' : (s : ℚ) ≤ 2 ^ 53 := by exact_mod_cast hlt.le
  have hppos : 0 < (tenPower a.natAbs).exact := by linarith
  have hvalue := value?_div hsfinite hpfinite hppos.ne'
  rw [hsexact] at hvalue
  -- the quotient is far from both ends of the range
  have hlo : (2 : ℚ) ^ (-300 : ℤ) ≤ s / (tenPower a.natAbs).exact := by
    calc (2 : ℚ) ^ (-300 : ℤ) ≤ 2 ^ (-201 : ℤ) := two_zpow_le (by decide)
      _ = 1 / 2 ^ 201 := by rw [one_div, zpow_neg, zpow_ofNat]
      _ ≤ s / (tenPower a.natAbs).exact := div_le_div₀ (by linarith) hone hppos hphi
  have hhi : s / (tenPower a.natAbs).exact ≤ 2 ^ (300 : ℤ) := by
    calc s / (tenPower a.natAbs).exact ≤ 2 ^ 53 / (1 / 2) :=
          div_le_div₀ (by positivity) hs' (by norm_num) hplo
      _ = 2 ^ (54 : ℤ) := by norm_num
      _ ≤ 2 ^ (300 : ℤ) := two_zpow_le (by decide)
  obtain ⟨hfinite, herror⟩ := exact_of_medium hlo hhi hvalue
  have hten : (s : ℚ) * 10 ^ a = s / 10 ^ a.natAbs := by
    rw [div_eq_mul_inv, ← zpow_natCast, ← zpow_neg]
    congr 2
    omega
  refine ⟨_, ?_, hfinite, ?_, ?_⟩
  · rw [scale?, if_pos (by omega), if_neg hneg.not_ge]
  · rw [scaled, if_neg hneg.not_ge]
    exact hvalue
  · rw [hten]
    exact abs_div_sub_le (by linarith) (by positivity) hperror herror

/-- Scaling rounds the result once more. -/
theorem exists_scalesTo {s : Nat} {a : Int} (hs : s ≠ 0) (hlt : s < 2 ^ 53) (ha : a.natAbs ≤ 60) :
    ∃ z, ScalesTo s a z := by
  rcases le_or_gt 0 a with hnonneg | hneg
  · exact exists_scalesTo_of_nonneg hs hlt ha hnonneg
  · exact exists_scalesTo_of_neg hs hlt ha hneg

/-- What reading makes of the decimal `s * 10 ^ a`. -/
structure Reads (negative : Bool) (s : Nat) (a : Int) (y : Double) (v : ℚ) : Prop where
  /-- The number that is read. -/
  eq : assemble? negative s a = some y
  /-- It is finite. -/
  isFinite : y.isFinite = true
  /-- Its value, the sign apart. -/
  exact : y.exact = signed negative v
  /-- The value differs from the decimal by at most one part in `parts`. -/
  error : |v - s * 10 ^ a| * parts ≤ s * 10 ^ a
  /-- A binary fraction is read exactly. -/
  eq_of_eq : ∀ (h : Nat) (g : Int), h < 2 ^ 53 → -1074 ≤ g → g ≤ 971 →
    (s : ℚ) * 10 ^ a = h * 2 ^ g → v = s * 10 ^ a

/-- A decimal with a significand of 53 bits is read with an error within the bound, and exactly if
it is a binary fraction. -/
theorem exists_reads (negative : Bool) {s : Nat} {a : Int} (hs : s ≠ 0) (hlt : s < 2 ^ 53)
    (ha : a.natAbs ≤ 60) : ∃ y v, Reads negative s a y v := by
  obtain ⟨z, hscale, hfinite, hvalue, herror⟩ := exists_scalesTo hs hlt ha
  refine ⟨if negative then -z else z, z.exact, ?_, ?_, ?_, herror, fun h g hh hmin hmax heq => ?_⟩
  · rw [assemble?, hscale, Option.map_some]
  · cases negative
    · exact hfinite
    · exact (isFinite_neg z).trans hfinite
  · cases negative
    · rfl
    · exact exact_neg z
  · rw [scaled_eq (natAbs_le_of_eq hs hlt hh heq), heq] at hvalue
    rw [heq]
    exact (exact_of_value?_fits hh hmin hmax hvalue).2

end CancellationPolicy.Json.Numeral
